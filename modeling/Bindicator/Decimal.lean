/-
**Decimal digit runs read into signed machine integers.**

Two loops of the firmware read a run of decimal digits byte by byte,
`n = n*10 + int(s[i]-'0')`: `parseScheduleResponse` into the `int64` `parsedTimestamp`, and
`parseDuration` into an `int`, which is 32 bits wide on the target. Go's signed arithmetic wraps
in two's complement, so the variable keeps the run's value modulo `2 ^ (width + 1)`, in
`[-2 ^ width, 2 ^ width)`: `wrapSigned`.

* `digitLoop_eq`: the loop leaves the wrap of the run's value, and stops at the first byte that is
  not a digit;
* `digitsValue_lt`: a run of `k` digits is below `10 ^ k`.
-/

import Bindicator.Bytes

namespace Bindicator

/-! ## Signed machine integers -/

/-- What a signed two's-complement variable of `width + 1` bits keeps of `x`. -/
def wrapSigned (width : Nat) (x : Int) : Int := (x + 2 ^ width) % 2 ^ (width + 1) - 2 ^ width

/-- An `int64`. -/
def toInt64 (x : Int) : Int := wrapSigned 63 x

/-- An `int32`, the `int` of the 32-bit target. -/
def toInt32 (x : Int) : Int := wrapSigned 31 x

theorem wrapSigned_congr {width : Nat} {x y : Int}
    (same : x % 2 ^ (width + 1) = y % 2 ^ (width + 1)) : wrapSigned width x = wrapSigned width y := by
  unfold wrapSigned
  rw [Int.add_emod, same, ← Int.add_emod]

theorem wrapSigned_emod (width : Nat) (x : Int) :
    wrapSigned width x % 2 ^ (width + 1) = x % 2 ^ (width + 1) := by
  unfold wrapSigned
  rw [Int.sub_emod, Int.emod_emod, ← Int.sub_emod, Int.add_sub_cancel]

/-- A value the variable can hold is kept as it is. -/
theorem wrapSigned_of_lt {width : Nat} {x : Int} (low : -2 ^ width ≤ x) (high : x < 2 ^ width) :
    wrapSigned width x = x := by
  unfold wrapSigned
  rw [Int.emod_eq_of_lt (by omega) (by rw [pow_succ]; omega), Int.add_sub_cancel]

theorem wrapSigned_bounds (width : Nat) (x : Int) :
    -2 ^ width ≤ wrapSigned width x ∧ wrapSigned width x < 2 ^ width := by
  unfold wrapSigned
  have pos : (0 : Int) < 2 ^ (width + 1) := by positivity
  have := Int.emod_nonneg (x + 2 ^ width) pos.ne'
  have := Int.emod_lt_of_pos (x + 2 ^ width) pos
  rw [pow_succ] at *
  omega

@[simp] theorem wrapSigned_wrapSigned (width : Nat) (x : Int) :
    wrapSigned width (wrapSigned width x) = wrapSigned width x :=
  wrapSigned_of_lt (wrapSigned_bounds width x).1 (wrapSigned_bounds width x).2

/-! ## Digit runs -/

/-- A byte `'0'` to `'9'`. -/
def isDigitByte (b : UInt8) : Bool := 48 ≤ b.toNat && b.toNat ≤ 57

/-- `int(b - '0')` for a digit byte `b`. -/
def digitValue (b : UInt8) : Nat := b.toNat - 48

/-- The loop `for i < len(s) && s[i] >= '0' && s[i] <= '9' { n = n*10 + int(s[i]-'0'); i++ }` on
a signed variable of `width + 1` bits: the value it leaves and the bytes from `s[i]` on. -/
def digitLoop (width : Nat) : Int → Bytes → Int × Bytes
  | n, [] => (n, [])
  | n, b :: rest =>
    if isDigitByte b then digitLoop width (wrapSigned width (n * 10 + digitValue b)) rest
    else (n, b :: rest)

/-- The value of a digit run, most significant digit first. -/
def digitsValue (run : Bytes) : Nat := run.foldl (fun n b => n * 10 + digitValue b) 0

/-- The same fold over `Int`, from any start. -/
def digitsFold (start : Int) (run : Bytes) : Int := run.foldl (fun n b => n * 10 + digitValue b) start

theorem digitsFold_emod (run : Bytes) {a b : Int} (m : Int) (same : a % m = b % m) :
    digitsFold a run % m = digitsFold b run % m := by
  induction run generalizing a b with
  | nil => exact same
  | cons d run ih =>
    apply ih
    rw [Int.add_emod, Int.mul_emod, same, ← Int.mul_emod, ← Int.add_emod]

theorem digitsFold_natCast (run : Bytes) (start : Nat) :
    digitsFold start run = ((run.foldl (fun n b => n * 10 + digitValue b) start : Nat) : Int) := by
  induction run generalizing start with
  | nil => rfl
  | cons d run ih =>
    rw [digitsFold, List.foldl_cons, ← digitsFold, List.foldl_cons, ← ih]
    push_cast
    rfl

/-- **The digit loop leaves the wrap of the run's value**, from a start the variable holds, and
stops at the first byte that is not a digit. -/
theorem digitLoop_eq (width : Nat) (s : Bytes) (n : Int) (kept : wrapSigned width n = n) :
    digitLoop width n s =
      (wrapSigned width (digitsFold n (s.takeWhile isDigitByte)), s.dropWhile isDigitByte) := by
  induction s generalizing n with
  | nil => simp [digitLoop, digitsFold, kept]
  | cons b rest ih =>
    by_cases digit : isDigitByte b
    · rw [digitLoop, if_pos digit, ih _ (wrapSigned_wrapSigned _ _), List.takeWhile_cons_of_pos digit,
        List.dropWhile_cons_of_pos digit]
      refine congrArg (·, _) (wrapSigned_congr (digitsFold_emod _ _ (wrapSigned_emod _ _)))
    · simp [digitLoop, digit, digitsFold, kept]

/-- From zero, the loop leaves the wrap of `digitsValue` of the run. -/
theorem digitLoop_zero (width : Nat) (s : Bytes) :
    digitLoop width 0 s =
      (wrapSigned width (digitsValue (s.takeWhile isDigitByte)), s.dropWhile isDigitByte) := by
  rw [digitLoop_eq width s 0 (wrapSigned_of_lt (by simp) (by positivity))]
  exact congrArg (fun v => (wrapSigned width v, _)) (digitsFold_natCast _ 0)

theorem digitValue_lt {b : UInt8} (digit : isDigitByte b = true) : digitValue b < 10 := by
  simp only [isDigitByte, Bool.and_eq_true, decide_eq_true_eq] at digit
  unfold digitValue
  omega

/-- A run of `k` digits is below `10 ^ k`. -/
theorem digitsValue_lt (run : Bytes) (digits : ∀ b ∈ run, isDigitByte b = true) :
    digitsValue run < 10 ^ run.length := by
  suffices ∀ start, run.foldl (fun n b => n * 10 + digitValue b) start < (start + 1) * 10 ^ run.length by
    simpa using this 0
  induction run with
  | nil => intro start; simp
  | cons d run ih =>
    intro start
    have small := digitValue_lt (digits d (List.mem_cons_self _ _))
    calc (d :: run).foldl (fun n b => n * 10 + digitValue b) start
        = run.foldl (fun n b => n * 10 + digitValue b) (start * 10 + digitValue d) := rfl
      _ < (start * 10 + digitValue d + 1) * 10 ^ run.length :=
        ih (fun b mem => digits b (List.mem_cons_of_mem _ mem)) _
      _ ≤ (start + 1) * 10 ^ (d :: run).length := by
        rw [List.length_cons, pow_succ', ← Nat.mul_assoc]
        exact Nat.mul_le_mul_right _ (show start * 10 + digitValue d + 1 ≤ (start + 1) * 10 by omega)

/-! ## Decimals read back -/

theorem digitByte_digit {d : Nat} (small : d < 10) :
    isDigitByte (digitByte d) = true ∧ digitValue (digitByte d) = d := by
  interval_cases d <;> decide

/-- `decimal` writes digits only. -/
theorem decimal_digits (n : Nat) : ∀ b ∈ decimal n, isDigitByte b = true := by
  unfold decimal
  split
  · simpa using (digitByte_digit (by norm_num : 0 < 10)).1
  · simp only [List.mem_reverse, List.mem_map]
    rintro b ⟨d, mem, rfl⟩
    exact (digitByte_digit (Nat.digits_lt_base (by norm_num) mem)).1

/-- **The digit run of `decimal n` reads back as `n`.** -/
theorem digitsValue_decimal (n : Nat) : digitsValue (decimal n) = n := by
  have ofDigits : ∀ l : List Nat, (∀ d ∈ l, d < 10) →
      l.foldr (fun d acc => acc * 10 + digitValue (digitByte d)) 0 = Nat.ofDigits 10 l := by
    intro l small
    induction l with
    | nil => rfl
    | cons d l ih =>
      rw [List.foldr_cons, ih fun e mem => small e (List.mem_cons_of_mem _ mem), Nat.ofDigits_cons,
        (digitByte_digit (small d (List.mem_cons_self _ _))).2]
      ring
  unfold decimal
  split
  · subst n; rfl
  · rw [digitsValue, List.foldl_reverse, List.foldr_map,
      ofDigits _ fun d mem => Nat.digits_lt_base (by norm_num) mem, Nat.ofDigits_digits]

end Bindicator
