/-
**The slog bridge: log records written into a fixed buffer as the telemetry message.**

`SlogHandler.Handle` queues every record of level `INFO` or above with `Log`, its message built by
`buildTelemetryMessage` in `var buf [128]byte`: the group and a colon, the message, and up to four
attributes ` key=value`. Every writer of `slog.go` (`copyToBuffer`, `copyInt64ToBuffer`,
`copyUint64ToBuffer`, `copyDurationToBuffer`, `copyAttrValue`) takes the buffer and a position and
returns the position after what it wrote, stopping at `len(buf)`. The buffer is modelled as its
bytes, the position as a `Nat`: every caller starts it at `0` and only moves it forward.

* `copyToBuffer_eq`: a copy writes the part of its text that fits at `pos` (the UF2 module's
  `writeAt`) and returns `pos` plus its length;
* `copyInt64ToBuffer_eq`: for every `int64`, `math.MinInt64` included, `copyInt64ToBuffer` is the
  copy of the signed decimal `intText`;
* `int64_encoders_decimal`: the same for `jsonWriter.writeInt64`, quoted, appended when
  `BodyBuf` has room;
* `buildTelemetryMessage_cut`, `buildTelemetryMessage_fits`: the message is the compact text of
  the group, the message and the first attributes, cut at 128 bytes, and it is the whole text of
  the first four attributes when that text fits before the attribute guard.
-/

import Bindicator.Cli.Uf2
import Bindicator.Telemetry.Json
import Bindicator.Telemetry.Queues

namespace Bindicator.Telemetry

/-! ## The buffer writers -/

/-- `if pos < len(buf) { buf[pos] = b; pos++ }`, the store `buildTelemetryMessage`,
`copyInt64ToBuffer` and `copyUint64ToBuffer` make of one byte. -/
def putByte (buf : Bytes) (pos : Nat) (b : UInt8) : Bytes × Nat :=
  if pos < buf.length then (buf.set pos b, pos + 1) else (buf, pos)

/-- `copyToBuffer(buf, pos, s)`: `for i := 0; i < len(s) && pos < len(buf); i++ { buf[pos] = s[i];
pos++ }`. -/
def copyToBuffer (buf : Bytes) (pos : Nat) : Bytes → Bytes × Nat
  | [] => (buf, pos)
  | c :: s => if pos < buf.length then copyToBuffer (buf.set pos c) (pos + 1) s else (buf, pos)

/-- `copyUint64ToBuffer(buf, pos, n)`: `'0'` for zero; else the digit loop over
`var digits [20]byte`, then `for j := i; j < len(digits) && pos < len(buf); j++`, the copy loop on
`digits[i:]`. -/
def copyUint64ToBuffer (buf : Bytes) (pos : Nat) (n : Nat) : Bytes × Nat :=
  if n = 0 then putByte buf pos 48 else copyToBuffer buf pos (fillDigits 20 n)

/-- `copyInt64ToBuffer(buf, pos, n)`: `'0'` for zero; else, when negative, a `'-'` if it fits and
`n = -n` in `int64`; then `copyUint64ToBuffer` of `uint64(n)`. -/
def copyInt64ToBuffer (buf : Bytes) (pos : Nat) (n : Int) : Bytes × Nat :=
  if n = 0 then putByte buf pos 48
  else if n < 0 then
    let signed := putByte buf pos 45
    copyUint64ToBuffer signed.1 signed.2 (toInt64 (-n) % 2 ^ 64).toNat
  else copyUint64ToBuffer buf pos (n % 2 ^ 64).toNat

/-! ## A copy writes the part of its text that fits -/

theorem copyToBuffer_full {buf : Bytes} {pos : Nat} (full : buf.length ≤ pos) (s : Bytes) :
    copyToBuffer buf pos s = (buf, pos) := by
  cases s with
  | nil => rfl
  | cons c s => exact if_neg (Nat.not_lt.mpr full)

/-- Two copies one after the other are the copy of both texts. -/
theorem copyToBuffer_append (buf : Bytes) (pos : Nat) (s t : Bytes) :
    copyToBuffer buf pos (s ++ t) = copyToBuffer (copyToBuffer buf pos s).1 (copyToBuffer buf pos s).2 t := by
  induction s generalizing buf pos with
  | nil => rfl
  | cons c s ih =>
    by_cases inside : pos < buf.length
    · simp only [List.cons_append, copyToBuffer, if_pos inside]
      exact ih _ _
    · simp only [List.cons_append, copyToBuffer, if_neg inside]
      exact (copyToBuffer_full (Nat.not_lt.mp inside) t).symm

theorem putByte_eq (buf : Bytes) (pos : Nat) (b : UInt8) : putByte buf pos b = copyToBuffer buf pos [b] := rfl

/-- A store at `pos` followed by a `writeAt` just after it is one `writeAt` at `pos`. -/
theorem writeAt_set {buf : Bytes} {pos : Nat} (c : UInt8) (t : Bytes) (inside : pos < buf.length) :
    Cli.writeAt (buf.set pos c) (pos + 1) t = Cli.writeAt buf pos (c :: t) := by
  have taken : (buf.take pos).length = pos := by simp; omega
  rw [Cli.writeAt, Cli.writeAt, List.set_eq_take_append_cons_drop, if_pos inside,
    List.take_append_eq_append_take, List.drop_append_eq_append_drop, taken,
    show (buf.take pos).drop (pos + 1 + t.length) = [] from List.drop_eq_nil_of_le (by omega),
    show pos + 1 + t.length - pos = t.length + 1 by omega]
  simp [List.take_of_length_le, taken, List.drop_drop, Nat.add_comm, Nat.add_left_comm]

/-- **A copy writes the part of its text that fits at `pos`, and returns `pos` plus its length.** -/
theorem copyToBuffer_eq (buf : Bytes) (pos : Nat) (s : Bytes) :
    copyToBuffer buf pos s =
      (Cli.writeAt buf pos (s.take (buf.length - pos)), pos + (s.take (buf.length - pos)).length) := by
  induction s generalizing buf pos with
  | nil => simp [copyToBuffer, Cli.writeAt]
  | cons c s ih =>
    by_cases inside : pos < buf.length
    · obtain ⟨room, left⟩ : ∃ room, buf.length - pos = room + 1 := ⟨buf.length - pos - 1, by omega⟩
      rw [copyToBuffer, if_pos inside, ih, List.length_set, left, List.take_succ_cons,
        show buf.length - (pos + 1) = room by omega, writeAt_set c _ inside, List.length_cons]
      simp only [Prod.mk.injEq, true_and]
      omega
    · rw [copyToBuffer_full (Nat.not_lt.mp inside), Nat.sub_eq_zero_of_le (Nat.not_lt.mp inside)]
      simp [Cli.writeAt]

theorem copyToBuffer_length (buf : Bytes) (pos : Nat) (s : Bytes) :
    (copyToBuffer buf pos s).1.length = buf.length := by
  rw [copyToBuffer_eq]
  by_cases inside : pos ≤ buf.length
  · exact Cli.writeAt_length _ _ _ (by simp; omega)
  · simp [Nat.sub_eq_zero_of_le (Nat.le_of_not_le inside), Cli.writeAt]

/-! ## The integers -/

/-- `copyUint64ToBuffer` copies the decimal of its `uint64`. -/
theorem copyUint64ToBuffer_eq (buf : Bytes) (pos : Nat) {n : Nat} (fits : n < 2 ^ 64) :
    copyUint64ToBuffer buf pos n = copyToBuffer buf pos (decimal n) := by
  unfold copyUint64ToBuffer
  split_ifs with zero
  · subst zero
    rfl
  · rw [fillDigits_decimal _ _ (Nat.pos_of_ne_zero zero) (by omega)]

/-- `copyInt64ToBuffer` copies the signed decimal of its `int64`, also at `math.MinInt64`. -/
theorem copyInt64ToBuffer_eq (buf : Bytes) (pos : Nat) {n : Int} (low : -2 ^ 63 ≤ n) (high : n < 2 ^ 63) :
    copyInt64ToBuffer buf pos n = copyToBuffer buf pos (intText n) := by
  rcases lt_trichotomy n 0 with negative | rfl | positive
  · rw [copyInt64ToBuffer, if_neg (by omega), if_pos negative, intText, if_pos negative]
    rw [uint64_neg_toInt64 low negative, copyUint64ToBuffer_eq _ _ (by omega), putByte_eq, ← copyToBuffer_append]
    rfl
  · rfl
  · rw [copyInt64ToBuffer, if_neg (by omega), if_neg (by omega), intText, if_neg (by omega),
      uint64_of_nonneg high (by omega), copyUint64ToBuffer_eq _ _ (by omega)]

/-- **Both encoders of an `int64` write its signed decimal**, `math.MinInt64` included:
`jsonWriter.writeInt64` appends a quote, the decimal and a quote when `BodyBuf` has room for them,
and `copyInt64ToBuffer` writes the decimal at `pos`, cut at `len(buf)`, and returns `pos` plus the
number of bytes it wrote. -/
theorem int64_encoders_decimal (n : Int) (low : -2 ^ 63 ≤ n) (high : n < 2 ^ 63) :
    (∀ out : Bytes, out.length + (intText n).length + 2 ≤ bodyBufSize →
      (writeInt64 n).foldl JsonWrite.apply out = out ++ 34 :: intText n ++ [34]) ∧
    ∀ (buf : Bytes) (pos : Nat),
      copyInt64ToBuffer buf pos n =
        (Cli.writeAt buf pos ((intText n).take (buf.length - pos)),
          pos + ((intText n).take (buf.length - pos)).length) := by
  have text : intended (writeInt64 n) = 34 :: intText n ++ [34] := by
    rw [writeInt64_text n low high, Json.render, quoteJson_plain _ (intText_plain n)]
  refine ⟨fun out room => ?_, fun buf pos => by rw [copyInt64ToBuffer_eq buf pos low high, copyToBuffer_eq]⟩
  rw [foldl_apply_fits _ out (by rw [text]; simpa [Nat.add_assoc] using room), text, List.append_assoc]

/-- At `math.MinInt64`, whose negation wraps back to itself: the JSON writer on an empty
`BodyBuf`, and a 16-byte buffer from position 4, which keeps the sign and eleven digits. -/
theorem int64_encoders_decimal_minInt64 :
    (-2 ^ 63 ≤ (-2 ^ 63 : Int) ∧ (-2 ^ 63 : Int) < 2 ^ 63) ∧
      intText (-2 ^ 63) = ascii "-9223372036854775808" ∧
      (writeInt64 (-2 ^ 63)).foldl JsonWrite.apply [] = 34 :: ascii "-9223372036854775808" ++ [34] ∧
      copyInt64ToBuffer (List.replicate 16 0) 4 (-2 ^ 63) = (List.replicate 4 0 ++ ascii "-92233720368", 16) := by
  have range : -2 ^ 63 ≤ (-2 ^ 63 : Int) ∧ (-2 ^ 63 : Int) < 2 ^ 63 := ⟨le_refl _, by norm_num⟩
  have minText : intText (-2 ^ 63) = ascii "-9223372036854775808" := by
    have magnitude : decimal (2 ^ 63) = fillDigits 20 (2 ^ 63) :=
      (fillDigits_decimal 20 _ (by norm_num) (by norm_num)).symm
    rw [intText, if_pos (by norm_num), show (-2 ^ 63 : Int).natAbs = 2 ^ 63 from rfl, magnitude]
    decide
  have encoders := int64_encoders_decimal (-2 ^ 63) range.1 range.2
  refine ⟨range, minText, ?_, ?_⟩
  · rw [encoders.1 [] (by rw [minText]; decide), minText]
    rfl
  · rw [encoders.2, minText]
    decide

/-! ## Attribute values -/

/-- The `slog.Value` kinds `copyAttrValue` tells apart: `KindFloat64` by the `int64` that
`int64(v.Float64())` gives it (the float conversion itself is not modelled), and `other` for
`KindAny`, `KindTime`, `KindGroup` and `KindLogValuer`. -/
inductive SlogValue where
  | string (s : Bytes)
  | int64 (n : Int)
  | uint64 (n : Nat)
  | bool (b : Bool)
  | duration (d : Int)
  | float64 (truncated : Int)
  | other
  deriving DecidableEq, Repr

/-- `slog.Attr`. -/
structure SlogAttr where
  key : Bytes
  value : SlogValue
  deriving DecidableEq, Repr

/-- `pos = copyInt64ToBuffer(buf, pos, count); return copyToBuffer(buf, pos, unit)`, each branch
of `copyDurationToBuffer` past zero. -/
def copyWithUnit (buf : Bytes) (pos : Nat) (count : Int) (unit : Bytes) : Bytes × Nat :=
  let counted := copyInt64ToBuffer buf pos count
  copyToBuffer counted.1 counted.2 unit

/-- `copyDurationToBuffer(buf, pos, d)`: `"0s"`, else the count in the largest of seconds,
milliseconds and microseconds that `d` reaches, or in nanoseconds, then the unit. In those
branches `d` is positive, so Go's division is `Int`'s. -/
def copyDurationToBuffer (buf : Bytes) (pos : Nat) (d : Int) : Bytes × Nat :=
  if d = 0 then copyToBuffer buf pos (ascii "0s")
  else if 1000000000 ≤ d then copyWithUnit buf pos (d / 1000000000) (ascii "s")
  else if 1000000 ≤ d then copyWithUnit buf pos (d / 1000000) (ascii "ms")
  else if 1000 ≤ d then copyWithUnit buf pos (d / 1000) (ascii "us")
  else copyWithUnit buf pos d (ascii "ns")

/-- `copyAttrValue(buf, pos, v)`, by `v.Kind()`. -/
def copyAttrValue (buf : Bytes) (pos : Nat) : SlogValue → Bytes × Nat
  | .string s => copyToBuffer buf pos s
  | .int64 n => copyInt64ToBuffer buf pos n
  | .uint64 n => copyUint64ToBuffer buf pos n
  | .bool b => if b then copyToBuffer buf pos (ascii "true") else copyToBuffer buf pos (ascii "false")
  | .duration d => copyDurationToBuffer buf pos d
  | .float64 n => copyInt64ToBuffer buf pos n
  | .other => copyToBuffer buf pos (ascii "?")

/-- The ranges of the machine types: an `int64` in the signed kinds, a `uint64` in `KindUint64`. -/
def SlogValue.Valid : SlogValue → Prop
  | .int64 n | .duration n | .float64 n => -2 ^ 63 ≤ n ∧ n < 2 ^ 63
  | .uint64 n => n < 2 ^ 64
  | .string _ | .bool _ | .other => True

instance : DecidablePred SlogValue.Valid
  | .int64 n | .duration n | .float64 n => inferInstanceAs (Decidable (-2 ^ 63 ≤ n ∧ n < 2 ^ 63))
  | .uint64 n => inferInstanceAs (Decidable (n < 2 ^ 64))
  | .string _ | .bool _ | .other => isTrue trivial

/-- What `copyDurationToBuffer` means to write. -/
def durationText (d : Int) : Bytes :=
  if d = 0 then ascii "0s"
  else if 1000000000 ≤ d then intText (d / 1000000000) ++ ascii "s"
  else if 1000000 ≤ d then intText (d / 1000000) ++ ascii "ms"
  else if 1000 ≤ d then intText (d / 1000) ++ ascii "us"
  else intText d ++ ascii "ns"

/-- The text of a value. -/
def valueText : SlogValue → Bytes
  | .string s => s
  | .int64 n | .float64 n => intText n
  | .uint64 n => decimal n
  | .bool b => if b then ascii "true" else ascii "false"
  | .duration d => durationText d
  | .other => ascii "?"

theorem copyWithUnit_eq (buf : Bytes) (pos : Nat) {count : Int} (unit : Bytes) (low : -2 ^ 63 ≤ count)
    (high : count < 2 ^ 63) : copyWithUnit buf pos count unit = copyToBuffer buf pos (intText count ++ unit) := by
  rw [copyWithUnit, copyInt64ToBuffer_eq buf pos low high, copyToBuffer_append]

theorem copyDurationToBuffer_eq (buf : Bytes) (pos : Nat) {d : Int} (low : -2 ^ 63 ≤ d) (high : d < 2 ^ 63) :
    copyDurationToBuffer buf pos d = copyToBuffer buf pos (durationText d) := by
  unfold copyDurationToBuffer durationText
  split_ifs <;> first | rfl | exact copyWithUnit_eq _ _ _ (by omega) (by omega)

/-- **Each kind writes its value's text**, cut at `len(buf)`. -/
theorem copyAttrValue_eq (buf : Bytes) (pos : Nat) {v : SlogValue} (valid : v.Valid) :
    copyAttrValue buf pos v = copyToBuffer buf pos (valueText v) := by
  cases v with
  | int64 n | float64 n => exact copyInt64ToBuffer_eq buf pos valid.1 valid.2
  | uint64 n => exact copyUint64ToBuffer_eq buf pos valid
  | duration d => exact copyDurationToBuffer_eq buf pos valid.1 valid.2
  | bool b => cases b <;> rfl
  | string s | other => rfl

/-! ## The telemetry message -/

/-- The body of the callback `r.Attrs` runs, past its guard: `' '`, the key, `'='` and the
value. -/
def writeAttr (buf : Bytes) (pos : Nat) (a : SlogAttr) : Bytes × Nat :=
  let spaced := putByte buf pos 32
  let keyed := copyToBuffer spaced.1 spaced.2 a.key
  let equals := putByte keyed.1 keyed.2 61
  copyAttrValue equals.1 equals.2 a.value

/-- The attribute loop of `buildTelemetryMessage`: the callback stops at the fifth attribute or
once `pos >= len(buf)-10`, else writes the attribute and counts it. -/
def attrLoop (attrCount : Nat) (buf : Bytes) (pos : Nat) : List SlogAttr → Bytes × Nat
  | [] => (buf, pos)
  | a :: rest =>
    if 4 ≤ attrCount ∨ buf.length - 10 ≤ pos then (buf, pos)
    else
      let valued := writeAttr buf pos a
      attrLoop (attrCount + 1) valued.1 valued.2 rest

/-- `buildTelemetryMessage(group, r)`: in `var buf [128]byte` from `pos := 0`, the group and `':'`
when there is a group, the message, then the attributes; `string(buf[:pos])`. -/
def buildTelemetryMessage (group message : Bytes) (attrs : List SlogAttr) : Bytes :=
  let buf : Bytes := List.replicate 128 0
  let grouped :=
    if group = [] then (buf, 0)
    else
      let copied := copyToBuffer buf 0 group
      putByte copied.1 copied.2 58
  let messaged := copyToBuffer grouped.1 grouped.2 message
  let done := attrLoop 0 messaged.1 messaged.2 attrs
  done.1.take done.2

/-- The text of an attribute: `' '`, the key, `'='`, the value. -/
def attrText (a : SlogAttr) : Bytes := 32 :: a.key ++ 61 :: valueText a.value

/-- The compact text of a record: `group:` when there is a group, the message, and each
attribute's text. -/
def telemetryText (group message : Bytes) (attrs : List SlogAttr) : Bytes :=
  (if group = [] then [] else group ++ [58]) ++ message ++ attrs.flatMap attrText

section Copies

variable (base : Bytes)

/-- From position `0`, a copy stands at the length of its text, or at the buffer's end. -/
theorem copyToBuffer_zero_pos (t : Bytes) : (copyToBuffer base 0 t).2 = min t.length base.length := by
  rw [copyToBuffer_eq]
  simp [Nat.min_comm]

/-- From position `0`, the bytes before the position are the text, cut at the buffer's end. -/
theorem copyToBuffer_zero_written (t : Bytes) :
    (copyToBuffer base 0 t).1.take (copyToBuffer base 0 t).2 = t.take base.length := by
  rw [copyToBuffer_eq]
  simp [Cli.writeAt, List.take_append_eq_append_take]

/-- An attribute continues the copy with its text. -/
theorem writeAttr_eq (t : Bytes) (a : SlogAttr) (valid : a.value.Valid) :
    writeAttr (copyToBuffer base 0 t).1 (copyToBuffer base 0 t).2 a = copyToBuffer base 0 (t ++ attrText a) := by
  simp only [writeAttr, putByte_eq, copyAttrValue_eq _ _ valid, ← copyToBuffer_append, attrText, List.append_assoc,
    List.cons_append, List.singleton_append, List.nil_append]

/-- **The loop keeps some first attributes**, at most as many as the counter leaves: what it
leaves is the copy of the text so far and theirs. -/
theorem attrLoop_copied (t : Bytes) (attrCount : Nat) (attrs : List SlogAttr)
    (valid : ∀ a ∈ attrs, a.value.Valid) :
    ∃ k ≤ 4 - attrCount, attrLoop attrCount (copyToBuffer base 0 t).1 (copyToBuffer base 0 t).2 attrs =
      copyToBuffer base 0 (t ++ (attrs.take k).flatMap attrText) := by
  induction attrs generalizing t attrCount with
  | nil => exact ⟨0, Nat.zero_le _, by simp [attrLoop]⟩
  | cons a rest ih =>
    rw [attrLoop]
    split_ifs with stop
    · exact ⟨0, Nat.zero_le _, by simp⟩
    · obtain ⟨k, bound, ran⟩ := ih (t ++ attrText a) (attrCount + 1)
        fun b mem => valid b (List.mem_cons_of_mem _ mem)
      refine ⟨k + 1, by omega, ?_⟩
      dsimp only
      rw [writeAttr_eq base t a (valid a (List.mem_cons_self _ _)), ran]
      simp

/-- When the whole text of the attributes the counter allows ends before the guard, the loop
keeps them all. -/
theorem attrLoop_fits (t : Bytes) (attrCount : Nat) (attrs : List SlogAttr) (valid : ∀ a ∈ attrs, a.value.Valid)
    (fits : (t ++ (attrs.take (4 - attrCount)).flatMap attrText).length ≤ base.length - 10) :
    attrLoop attrCount (copyToBuffer base 0 t).1 (copyToBuffer base 0 t).2 attrs =
      copyToBuffer base 0 (t ++ (attrs.take (4 - attrCount)).flatMap attrText) := by
  induction attrs generalizing t attrCount with
  | nil => simp [attrLoop]
  | cons a rest ih =>
    by_cases counted : 4 ≤ attrCount
    · rw [attrLoop, if_pos (.inl counted), Nat.sub_eq_zero_of_le counted]
      simp
    · obtain ⟨left, room⟩ : ∃ left, 4 - attrCount = left + 1 := ⟨3 - attrCount, by omega⟩
      rw [room, List.take_succ_cons, List.flatMap_cons, ← List.append_assoc] at fits ⊢
      have before : t.length + (attrText a).length ≤ base.length - 10 := by
        simp only [List.length_append] at fits
        omega
      have guardOpen : ¬(4 ≤ attrCount ∨ (copyToBuffer base 0 t).1.length - 10 ≤ (copyToBuffer base 0 t).2) := by
        rw [copyToBuffer_length, copyToBuffer_zero_pos]
        simp only [attrText, List.length_cons, List.length_append] at before
        omega
      have next : 4 - (attrCount + 1) = left := by omega
      rw [attrLoop, if_neg guardOpen]
      dsimp only
      rw [writeAttr_eq base t a (valid a (List.mem_cons_self _ _)),
        ih _ _ (fun b mem => valid b (List.mem_cons_of_mem _ mem)) (by rwa [next]), next]

end Copies

/-- The group and the message go through the copy from position `0`. -/
theorem messaged_eq (group message : Bytes) :
    (let buf : Bytes := List.replicate 128 0
     let grouped :=
       if group = [] then (buf, 0)
       else
         let copied := copyToBuffer buf 0 group
         putByte copied.1 copied.2 58
     copyToBuffer grouped.1 grouped.2 message) =
      copyToBuffer (List.replicate 128 0) 0 ((if group = [] then [] else group ++ [58]) ++ message) := by
  by_cases none : group = []
  · simp only [if_pos none]
    rfl
  · simp only [if_neg none, putByte_eq, ← copyToBuffer_append]

/-- The message is the compact text with some first attributes, at most four, cut at 128 bytes. -/
theorem buildTelemetryMessage_cut (group message : Bytes) (attrs : List SlogAttr)
    (valid : ∀ a ∈ attrs, a.value.Valid) :
    ∃ k ≤ 4, buildTelemetryMessage group message attrs = (telemetryText group message (attrs.take k)).take 128 := by
  obtain ⟨k, bound, ran⟩ :=
    attrLoop_copied (List.replicate 128 0) ((if group = [] then [] else group ++ [58]) ++ message) 0 attrs valid
  refine ⟨k, bound, ?_⟩
  simp only [buildTelemetryMessage]
  rw [messaged_eq, ran, copyToBuffer_zero_written, List.length_replicate, telemetryText]

/-- A text of the first four attributes that ends before the guard is the whole message. -/
theorem buildTelemetryMessage_whole (group message : Bytes) (attrs : List SlogAttr)
    (valid : ∀ a ∈ attrs, a.value.Valid) (fits : (telemetryText group message (attrs.take 4)).length ≤ 118) :
    buildTelemetryMessage group message attrs = telemetryText group message (attrs.take 4) := by
  have ran := attrLoop_fits (List.replicate 128 0) ((if group = [] then [] else group ++ [58]) ++ message) 0
    attrs valid (by rw [List.length_replicate]; exact fits)
  simp only [buildTelemetryMessage]
  rw [messaged_eq, ran, Nat.sub_zero, copyToBuffer_zero_written, List.length_replicate, ← telemetryText,
    List.take_of_length_le (by omega)]

theorem buildTelemetryMessage_length_le (group message : Bytes) (attrs : List SlogAttr)
    (valid : ∀ a ∈ attrs, a.value.Valid) : (buildTelemetryMessage group message attrs).length ≤ 128 := by
  obtain ⟨k, -, cut⟩ := buildTelemetryMessage_cut group message attrs valid
  rw [cut, List.length_take]
  exact Nat.min_le_left _ _

/-- **The telemetry message is the compact text of the record, cut at 128 bytes, with some first
attributes**: at most four, each written whole unless the buffer ends; and all four when their
text ends before the guard `pos >= len(buf)-10`. -/
theorem buildTelemetryMessage_compact (group message : Bytes) (attrs : List SlogAttr)
    (valid : ∀ a ∈ attrs, a.value.Valid) :
    (∃ k ≤ 4, buildTelemetryMessage group message attrs = (telemetryText group message (attrs.take k)).take 128) ∧
      ((telemetryText group message (attrs.take 4)).length ≤ 118 →
        buildTelemetryMessage group message attrs = telemetryText group message (attrs.take 4)) :=
  ⟨buildTelemetryMessage_cut group message attrs valid, buildTelemetryMessage_whole group message attrs valid⟩

/-- A Wi-Fi record with five attributes, the fifth past the counter. -/
def wifiAttrs : List SlogAttr :=
  [⟨ascii "ssid", .string (ascii "home")⟩, ⟨ascii "ok", .bool true⟩, ⟨ascii "at", .other⟩,
    ⟨ascii "ch", .string (ascii "6")⟩, ⟨ascii "rssi", .string (ascii "-60")⟩]

theorem buildTelemetryMessage_compact_wifi :
    (∀ a ∈ wifiAttrs, a.value.Valid) ∧
      (telemetryText (ascii "wifi") (ascii "connected") (wifiAttrs.take 4)).length ≤ 118 ∧
      buildTelemetryMessage (ascii "wifi") (ascii "connected") wifiAttrs =
        telemetryText (ascii "wifi") (ascii "connected") (wifiAttrs.take 4) ∧
      telemetryText (ascii "wifi") (ascii "connected") (wifiAttrs.take 4) =
        ascii "wifi:connected ssid=home ok=true at=? ch=6" := by
  have valid : ∀ a ∈ wifiAttrs, a.value.Valid := by decide
  have fits : (telemetryText (ascii "wifi") (ascii "connected") (wifiAttrs.take 4)).length ≤ 118 := by decide
  exact ⟨valid, fits, (buildTelemetryMessage_compact _ _ _ valid).2 fits, by decide⟩

/-! ## The handler -/

/-- `slogLevelToOTLP(level)`: `SeverityError`, `SeverityWarn`, `SeverityInfo` or `SeverityDebug`,
from `slog.LevelError = 8`, `LevelWarn = 4` and `LevelInfo = 0` up. -/
def slogLevelToOTLP (level : Int) : UInt8 :=
  if 8 ≤ level then 17 else if 4 ≤ level then 13 else if 0 ≤ level then 9 else 5

/-- `slog.Record`: its level, message and attributes. -/
structure SlogRecord where
  level : Int
  message : Bytes
  attrs : List SlogAttr
  deriving DecidableEq, Repr

/-- The telemetry half of `Handle(ctx, r)` on a handler of group `group`, at `now` and with the
trace context then current: a record at `slog.LevelInfo` or above is `Log(severity, msg)`. -/
def handleTelemetry (group : Bytes) (r : SlogRecord) (now : Int) (trace : Option (Bytes × Bytes)) : List Op :=
  if 0 ≤ r.level then [.log now (slogLevelToOTLP r.level) (buildTelemetryMessage group r.message r.attrs) trace]
  else []

/-- **A record at `INFO` or above reaches the log queue whole**: from any state whose rings hold
the FIFOs, `Handle` keeps them in step, and the log FIFO gains the record's message, severity,
time and trace context while telemetry is on and unpaused; `Log` cuts a body at 128 bytes, which
the message never exceeds. A `DEBUG` record queues nothing. -/
theorem handleTelemetry_logs (group : Bytes) (r : SlogRecord) (now : Int) (trace : Option (Bytes × Bytes))
    (valid : ∀ a ∈ r.attrs, a.value.Valid) (t : State) (s : Spec) (refines : Refines t s) :
    Refines (t.run (handleTelemetry group r now trace)).2 (s.run (handleTelemetry group r now trace)).2 ∧
      (s.run (handleTelemetry group r now trace)).2.logs =
        if 0 ≤ r.level ∧ s.enabled = true ∧ s.paused = false then
          fifoPush s.logs ⟨now, slogLevelToOTLP r.level, buildTelemetryMessage group r.message r.attrs, trace⟩
        else s.logs := by
  refine ⟨(State.run_refines _ t s refines).2, ?_⟩
  have whole :
      (buildTelemetryMessage group r.message r.attrs).take 128 = buildTelemetryMessage group r.message r.attrs :=
    List.take_of_length_le (buildTelemetryMessage_length_le group r.message r.attrs valid)
  unfold handleTelemetry
  by_cases info : 0 ≤ r.level
  · cases enabled : s.enabled <;> cases paused : s.paused <;>
      simp [info, Spec.run, Spec.step, logEntry, whole, enabled, paused]
  · simp [info, Spec.run]

/-- A Wi-Fi record at `level`. -/
def wifiRecord (level : Int) : SlogRecord := ⟨level, ascii "connected", wifiAttrs⟩

/-- The queues after `Init` and `Enable`, as rings. -/
def enabledState : State := (bootState.run [.enable]).2

/-- The queues after `Init` and `Enable`, as FIFOs. -/
def enabledSpec : Spec := (specBoot.run [.enable]).2

set_option maxRecDepth 20000 in
/-- An `INFO` record on the queues after `Init` and `Enable` is the one entry of the log FIFO. -/
theorem handleTelemetry_logs_wifi :
    (∀ a ∈ (wifiRecord 0).attrs, a.value.Valid) ∧ Refines enabledState enabledSpec ∧
      Refines (enabledState.run (handleTelemetry (ascii "wifi") (wifiRecord 0) 5 none)).2
        (enabledSpec.run (handleTelemetry (ascii "wifi") (wifiRecord 0) 5 none)).2 ∧
      (enabledSpec.run (handleTelemetry (ascii "wifi") (wifiRecord 0) 5 none)).2.logs =
        [⟨5, 9, ascii "wifi:connected ssid=home ok=true at=? ch=6", none⟩] := by
  have valid : ∀ a ∈ (wifiRecord 0).attrs, a.value.Valid := by decide
  have refines : Refines enabledState enabledSpec := (State.run_refines [.enable] bootState specBoot
    ⟨rfl, rfl, ⟨by decide, by decide, rfl⟩, ⟨by decide, by decide, rfl⟩⟩).2
  obtain ⟨after, logs⟩ := handleTelemetry_logs (ascii "wifi") (wifiRecord 0) 5 none valid _ _ refines
  refine ⟨valid, refines, after, ?_⟩
  rw [logs]
  decide

end Bindicator.Telemetry
