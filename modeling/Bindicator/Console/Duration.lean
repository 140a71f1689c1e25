/-
**`parseDuration`, and the two commands that read it.**

`parseDuration` reads the leading digits of its argument into `num`, an `int` (32 bits on the
target), and multiplies `time.Duration(num)` by the unit its next byte names, an `int64` product.
`ota-enable <d>` keeps the result only if it is positive (`enableTimeout`), and so does the sleep
override of the main loop (`sleepOverride`), set by `sleep <d>`.

* `parseDuration_eq`: the result is the digits' value, wrapped to 32 bits, times the unit,
  wrapped to 64 bits;
* `parseDuration_exact`: when neither wraps it is the digits' value times the unit;
* `parseDuration_overflow_positive`: `5124096h` is past the range of a `time.Duration`, and
  `parseDuration` returns about 25 minutes, which both commands take.
-/

import Bindicator.Decimal
import Bindicator.Time
import Bindicator.Ota.Server

namespace Bindicator.Console

/-- The unit of `parseDuration`: `time.Second` when the digits end the argument, for `'s'`, `'S'`
and any byte the `switch` does not name; `time.Minute` for `'m'`, `'M'`; `time.Hour` for `'h'`,
`'H'`. -/
def durationUnit : Bytes → Int
  | [] => second
  | b :: _ =>
    if b == 115 || b == 83 then second
    else if b == 109 || b == 77 then minute
    else if b == 104 || b == 72 then hour
    else second

theorem durationUnit_pos (rest : Bytes) : 0 < durationUnit rest := by
  cases rest with
  | nil => decide
  | cons b rest =>
    simp only [durationUnit]
    split_ifs <;> decide

/-- `parseDuration(s)`: `0` for an empty argument; else the digit loop into the `int` `num`, then
`time.Duration(num) * unit`. -/
def parseDuration (s : Bytes) : Int :=
  if s = [] then 0 else toInt64 ((digitLoop 31 0 s).1 * durationUnit (digitLoop 31 0 s).2)

/-- `sleepWithRefreshCheck`: `debugSleepDuration` replaces the main loop's interval when it is
positive. -/
def sleepOverride (debugSleepDuration duration : Int) : Int :=
  if 0 < debugSleepDuration then debugSleepDuration else duration

/-- **What `parseDuration` returns, for every argument**: the value `N` of the leading digits,
as the 32-bit `num` keeps it, times the unit, as an `int64` keeps the product. -/
theorem parseDuration_eq (s : Bytes) :
    parseDuration s = toInt64 (toInt32 (digitsValue (s.takeWhile isDigitByte)) *
      durationUnit (s.dropWhile isDigitByte)) := by
  unfold parseDuration
  split
  · subst s
    rfl
  · rw [digitLoop_zero]
    rfl

/-- **Without overflow, the duration is the digits' value in the unit**: when `num` holds `N`
and `N * unit` fits in an `int64`. -/
theorem parseDuration_exact (s : Bytes) (numFits : digitsValue (s.takeWhile isDigitByte) < 2 ^ 31)
    (productFits : digitsValue (s.takeWhile isDigitByte) * durationUnit (s.dropWhile isDigitByte) < 2 ^ 63) :
    parseDuration s = digitsValue (s.takeWhile isDigitByte) * durationUnit (s.dropWhile isDigitByte) := by
  have unitPos := durationUnit_pos (s.dropWhile isDigitByte)
  rw [parseDuration_eq, toInt32, wrapSigned_of_lt (by omega) (by exact_mod_cast numFits), toInt64,
    wrapSigned_of_lt _ productFits]
  exact Int.le_trans (by norm_num) (Int.mul_nonneg (Int.natCast_nonneg _) unitPos.le)

theorem parseDuration_exact_five_minutes :
    digitsValue ((ascii "5m").takeWhile isDigitByte) < 2 ^ 31 ∧
      digitsValue ((ascii "5m").takeWhile isDigitByte) * durationUnit ((ascii "5m").dropWhile isDigitByte) <
        2 ^ 63 ∧
      parseDuration (ascii "5m") =
        digitsValue ((ascii "5m").takeWhile isDigitByte) * durationUnit ((ascii "5m").dropWhile isDigitByte) :=
  ⟨by decide, by decide, parseDuration_exact _ (by decide) (by decide)⟩

/-- **A duration past the range of `time.Duration` comes back positive and wrong**: `5124096h`
is about 584 years, more than `2 ^ 63` nanoseconds, and `num` holds it; the product wraps to
`1526290448384` ns, about 25 minutes, which `ota-enable` takes as its window and `sleep` as the
main loop's interval. -/
theorem parseDuration_overflow_positive :
    digitsValue ((ascii "5124096h").takeWhile isDigitByte) = 5124096 ∧
      durationUnit ((ascii "5124096h").dropWhile isDigitByte) = hour ∧
      (2 : Int) ^ 63 ≤ 5124096 * hour ∧
      parseDuration (ascii "5124096h") = 1526290448384 ∧
      Ota.enableTimeout (parseDuration (ascii "5124096h")) = 1526290448384 ∧
      ∀ duration, sleepOverride (parseDuration (ascii "5124096h")) duration = 1526290448384 := by
  refine ⟨by decide, by decide, by decide, by decide, by decide, fun duration => ?_⟩
  unfold sleepOverride
  rw [if_pos (by decide)]
  decide

end Bindicator.Console
