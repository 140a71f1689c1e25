/-
**The zero-allocation JSON writer of the telemetry package.**

`jsonWriter` writes into the 2048-byte `BodyBuf`: `writeRaw` drops a fragment that does not fit
whole, `writeByte` drops a byte past the end. The encoders on top of it (`writeString`,
`writeBytes`, `writeInt64`, `writeUint64`, `writeInt`, `writeHex`) are lists of those calls. What
they mean to write is the text of a JSON value: `Json.render`, RFC 8259 with no whitespace, where
a string holds the bytes JSON can carry (printable ASCII, tab and line ends) and escapes them.

* `runWrites_length_le`: nothing is written past `BodyBuf`;
* `runWrites_fits`: calls whose bytes fit are all kept;
* `writeString_text`, `writeInt64_text`, `writeInt_text`, `writeHex_text`: each encoder means the
  text of a JSON string or number.
-/

import Bindicator.Decimal

namespace Bindicator.Telemetry

/-- `len(BodyBuf) = 2048`. -/
def bodyBufSize : Nat := 2048

/-- A call on the writer. -/
inductive JsonWrite where
  /-- `writeRaw(s)`. -/
  | raw (s : Bytes)
  /-- `writeByte(b)`. -/
  | byte (b : UInt8)
  deriving DecidableEq, Repr

/-- A call against `BodyBuf[:pos]`: `writeRaw` keeps a fragment only whole, `writeByte` keeps a
byte only below `len(BodyBuf)`. -/
def JsonWrite.apply (out : Bytes) : JsonWrite → Bytes
  | .raw s => if out.length + s.length > bodyBufSize then out else out ++ s
  | .byte b => if out.length < bodyBufSize then out ++ [b] else out

/-- The bytes a call means to write. -/
def JsonWrite.bytes : JsonWrite → Bytes
  | .raw s => s
  | .byte b => [b]

/-- Calls from `w.reset()`: `BodyBuf[:w.len()]` after them. -/
def runWrites (calls : List JsonWrite) : Bytes := calls.foldl JsonWrite.apply []

/-- What the calls mean to write. -/
def intended (calls : List JsonWrite) : Bytes := calls.flatMap JsonWrite.bytes

/-! ## The encoders -/

/-- The `switch` of `writeString` on a byte: an escape, a printable byte, or nothing. -/
def writeStringByte (b : UInt8) : List JsonWrite :=
  if b == 34 then [.raw (ascii "\\\"")]
  else if b == 92 then [.raw (ascii "\\\\")]
  else if b == 10 then [.raw (ascii "\\n")]
  else if b == 13 then [.raw (ascii "\\r")]
  else if b == 9 then [.raw (ascii "\\t")]
  else if 32 ≤ b.toNat && b.toNat < 127 then [.byte b]
  else []

/-- `writeString(s)`. -/
def writeString (s : Bytes) : List JsonWrite := .byte 34 :: s.flatMap writeStringByte ++ [.byte 34]

/-- `writeBytes(b, n)`: its loop, `for i := 0; i < n && i < len(b); i++`, is the one of
`writeString` on `b[:n]`. -/
def writeBytes (b : Bytes) (n : Nat) : List JsonWrite := writeString (b.take n)

/-- `writeUint64(n)`: the digit loop over `var buf [20]byte`, then a `writeByte` per digit. -/
def writeUint64 (n : Nat) : List JsonWrite := (fillDigits 20 n).map .byte

/-- `writeInt64(n)`, quoted: a negative `n` is negated in `int64` and written as a `uint64`. -/
def writeInt64 (n : Int) : List JsonWrite :=
  .byte 34 :: (if n = 0 then [.byte 48]
    else if n < 0 then .byte 45 :: writeUint64 (toInt64 (-n) % 2 ^ 64).toNat
    else writeUint64 (n % 2 ^ 64).toNat) ++ [.byte 34]

/-- `writeInt(n)` on the 32-bit `int`: `'0'`, or a `'-'` and `n = -n` when negative, then the
digit loop over `var buf [10]byte` while `n > 0`. -/
def writeInt (n : Int) : List JsonWrite :=
  if n = 0 then [.byte 48]
  else (if n < 0 then [.byte 45] else []) ++ (fillDigits 10 (if n < 0 then toInt32 (-n) else n).toNat).map .byte

/-- `writeHex(b)`: `hexDigits[v>>4]` and `hexDigits[v&0xf]` per byte, quoted. -/
def writeHex (b : Bytes) : List JsonWrite := .byte 34 :: (formatHashHex b).map .byte ++ [.byte 34]

/-! ## JSON texts -/

/-- A JSON value. -/
inductive Json where
  | str (s : Bytes)
  | num (n : Int)
  | bool (b : Bool)
  | arr (items : List Json)
  | obj (members : List (Bytes × Json))

/-- A byte a JSON string carries: printable ASCII, a tab or a line end. -/
def jsonKeeps (b : UInt8) : Bool := (32 ≤ b.toNat && b.toNat < 127) || b == 9 || b == 10 || b == 13

/-- RFC 8259's text for a byte of a string. -/
def jsonEscape (b : UInt8) : Bytes :=
  if b == 34 then ascii "\\\"" else if b == 92 then ascii "\\\\" else if b == 10 then ascii "\\n"
  else if b == 13 then ascii "\\r" else if b == 9 then ascii "\\t" else [b]

/-- The text of a JSON string holding `s`. -/
def quoteJson (s : Bytes) : Bytes := 34 :: s.flatMap jsonEscape ++ [34]

/-- The decimal text of an integer. -/
def intText (n : Int) : Bytes := if n < 0 then 45 :: decimal n.natAbs else decimal n.toNat

mutual

/-- The text of a value, with no whitespace. -/
def Json.render : Json → Bytes
  | .str s => quoteJson s
  | .num n => intText n
  | .bool b => if b then ascii "true" else ascii "false"
  | .arr items => 91 :: Json.renderItems items ++ [93]
  | .obj members => 123 :: Json.renderMembers members ++ [125]

/-- The items of an array, separated by commas. -/
def Json.renderItems : List Json → Bytes
  | [] => []
  | [j] => j.render
  | j :: js => j.render ++ 44 :: Json.renderItems js

/-- The members of an object, separated by commas. -/
def Json.renderMembers : List (Bytes × Json) → Bytes
  | [] => []
  | [(k, v)] => quoteJson k ++ 58 :: v.render
  | (k, v) :: ms => quoteJson k ++ 58 :: v.render ++ 44 :: Json.renderMembers ms

end

/-! ## The writer against `BodyBuf` -/

@[simp] theorem intended_nil : intended [] = [] := rfl

@[simp] theorem intended_cons (call : JsonWrite) (calls : List JsonWrite) :
    intended (call :: calls) = call.bytes ++ intended calls := rfl

@[simp] theorem intended_append (calls calls' : List JsonWrite) :
    intended (calls ++ calls') = intended calls ++ intended calls' := List.flatMap_append _ _ _

@[simp] theorem intended_map_byte (s : Bytes) : intended (s.map .byte) = s := by
  induction s with
  | nil => rfl
  | cons b s ih => simp [ih, JsonWrite.bytes]


theorem apply_length_le (out : Bytes) (call : JsonWrite) (room : out.length ≤ bodyBufSize) :
    (call.apply out).length ≤ bodyBufSize := by
  cases call with
  | raw s =>
    simp only [JsonWrite.apply]
    split_ifs with over
    · exact room
    · rw [List.length_append]
      omega
  | byte b =>
    simp only [JsonWrite.apply]
    split_ifs with below
    · rw [List.length_append, List.length_singleton]
      omega
    · exact room

/-- **Nothing is written past `BodyBuf`.** -/
theorem runWrites_length_le (calls : List JsonWrite) : (runWrites calls).length ≤ bodyBufSize := by
  suffices ∀ out : Bytes, out.length ≤ bodyBufSize → (calls.foldl JsonWrite.apply out).length ≤ bodyBufSize from
    this [] (Nat.zero_le _)
  induction calls with
  | nil => exact fun _ room => room
  | cons call calls ih => exact fun out room => ih _ (apply_length_le out call room)

theorem apply_fits (out : Bytes) (call : JsonWrite) (fits : out.length + call.bytes.length ≤ bodyBufSize) :
    call.apply out = out ++ call.bytes := by
  cases call with
  | raw s => exact if_neg (Nat.not_lt.mpr fits)
  | byte b => exact if_pos (by simp only [JsonWrite.bytes, List.length_singleton] at fits; omega)

/-- Calls whose bytes fit after what `BodyBuf` holds append them. -/
theorem foldl_apply_fits (calls : List JsonWrite) (out : Bytes)
    (room : out.length + (intended calls).length ≤ bodyBufSize) :
    calls.foldl JsonWrite.apply out = out ++ intended calls := by
  induction calls generalizing out with
  | nil => exact (List.append_nil out).symm
  | cons call calls ih =>
    rw [intended_cons, List.length_append] at room
    rw [List.foldl_cons, apply_fits out call (by omega), ih _ (by rw [List.length_append]; omega), intended_cons,
      List.append_assoc]

/-- **Calls whose bytes fit are all kept**: they leave exactly what they mean to write. -/
theorem runWrites_fits (calls : List JsonWrite) (fits : (intended calls).length ≤ bodyBufSize) :
    runWrites calls = intended calls :=
  (foldl_apply_fits calls [] (by simpa using fits)).trans (List.nil_append _)

/-! ## What the encoders mean -/

theorem writeStringByte_text (b : UInt8) :
    intended (writeStringByte b) = if jsonKeeps b then jsonEscape b else [] := by
  by_cases special : b = 34 ∨ b = 92 ∨ b = 10 ∨ b = 13 ∨ b = 9
  · rcases special with rfl | rfl | rfl | rfl | rfl <;> rfl
  · simp only [not_or] at special
    obtain ⟨quote, backslash, newline, cr, tab⟩ := special
    simp only [writeStringByte, jsonKeeps, jsonEscape, beq_iff_eq, quote, backslash, newline, cr, tab, if_false,
      Bool.or_false]
    split <;> simp_all [JsonWrite.bytes]

/-- **`writeString` means the text of a JSON string of the bytes it keeps.** -/
theorem writeString_text (s : Bytes) : intended (writeString s) = (Json.str (s.filter jsonKeeps)).render := by
  have bytes : intended (s.flatMap writeStringByte) = (s.filter jsonKeeps).flatMap jsonEscape := by
    induction s with
    | nil => rfl
    | cons b s ih =>
      rw [List.flatMap_cons, intended_append, ih, writeStringByte_text, List.filter_cons]
      split <;> simp
  simp [writeString, bytes, Json.render, quoteJson, JsonWrite.bytes]

/-- A byte a JSON string carries as it is. -/
def plainByte (b : UInt8) : Bool := 32 ≤ b.toNat && b.toNat < 127 && b != 34 && b != 92

theorem plainByte_escape {b : UInt8} (plain : plainByte b = true) : jsonKeeps b = true ∧ jsonEscape b = [b] := by
  simp only [plainByte, Bool.and_eq_true, decide_eq_true_eq, bne_iff_ne, ne_eq] at plain
  obtain ⟨⟨⟨low, high⟩, notQuote⟩, notBackslash⟩ := plain
  have notLine : b ≠ 10 ∧ b ≠ 13 ∧ b ≠ 9 := by
    refine ⟨?_, ?_, ?_⟩ <;> rintro rfl <;> exact absurd low (by decide)
  simp [jsonKeeps, jsonEscape, low, high, notQuote, notBackslash, notLine]

/-- A text of plain bytes is kept whole and escapes to itself. -/
theorem plain_text (s : Bytes) (plain : ∀ b ∈ s, plainByte b = true) :
    s.filter jsonKeeps = s ∧ s.flatMap jsonEscape = s := by
  induction s with
  | nil => exact ⟨rfl, rfl⟩
  | cons b s ih =>
    obtain ⟨keeps, escape⟩ := plainByte_escape (plain b (List.mem_cons_self _ _))
    obtain ⟨filtered, escaped⟩ := ih fun c mem => plain c (List.mem_cons_of_mem _ mem)
    exact ⟨by simp [List.filter_cons, keeps, filtered], by simp [escape, escaped]⟩

theorem quoteJson_plain (s : Bytes) (plain : ∀ b ∈ s, plainByte b = true) : quoteJson s = 34 :: s ++ [34] := by
  rw [quoteJson, (plain_text s plain).2]

theorem digitByte_plain {d : Nat} (small : d < 10) : plainByte (digitByte d) = true := by
  interval_cases d <;> rfl

theorem decimal_plain (n : Nat) : ∀ b ∈ decimal n, plainByte b = true := by
  unfold decimal
  split
  · simpa using digitByte_plain (by norm_num)
  · simp only [List.mem_reverse, List.mem_map]
    rintro b ⟨d, mem, rfl⟩
    exact digitByte_plain (Nat.digits_lt_base (by norm_num) mem)

theorem intText_plain (n : Int) : ∀ b ∈ intText n, plainByte b = true := by
  unfold intText
  split
  · rintro b (_ | ⟨_, mem⟩)
    · rfl
    · exact decimal_plain _ b mem
  · exact decimal_plain _

/-- The digit loop over a buffer the value fits writes its decimal. -/
theorem fillDigits_decimal (slots n : Nat) (pos : 0 < n) (fits : n < 10 ^ slots) :
    fillDigits slots n = decimal n := by
  rw [fillDigits_eq slots n fits, decimal, if_neg (Nat.pos_iff_ne_zero.mp pos)]

/-- `n = -n` then `uint64(n)` on a negative `int64` leaves its magnitude, also at `math.MinInt64`,
whose negation wraps back to itself and reads as `2 ^ 63`. -/
theorem uint64_neg_toInt64 {n : Int} (low : -2 ^ 63 ≤ n) (negative : n < 0) :
    (toInt64 (-n) % 2 ^ 64).toNat = n.natAbs := by
  rw [toInt64, wrapSigned_emod 63 (-n), Int.emod_eq_of_lt (by omega) (by omega)]
  omega

/-- `uint64(n)` on a nonnegative `int64` is `n`. -/
theorem uint64_of_nonneg {n : Int} (high : n < 2 ^ 63) (nonneg : ¬n < 0) : (n % 2 ^ 64).toNat = n.toNat := by
  rw [Int.emod_eq_of_lt (by omega) (by omega)]

/-- **`writeInt64` means the text of a JSON string holding the decimal of its `int64`.** -/
theorem writeInt64_text (n : Int) (low : -2 ^ 63 ≤ n) (high : n < 2 ^ 63) :
    intended (writeInt64 n) = (Json.str (intText n)).render := by
  rw [Json.render, quoteJson_plain _ (intText_plain n)]
  simp only [writeInt64, intended_cons, intended_append, JsonWrite.bytes, List.singleton_append, List.cons.injEq,
    true_and]
  congr 1
  split_ifs with zero negative
  · subst zero
    rfl
  · simp only [writeUint64, intended_cons, intended_map_byte, JsonWrite.bytes, uint64_neg_toInt64 low negative,
      intText, if_pos negative, List.singleton_append]
    rw [fillDigits_decimal _ _ (by omega) (by omega)]
  · simp only [writeUint64, intended_map_byte, uint64_of_nonneg high negative, intText, if_neg negative]
    rw [fillDigits_decimal _ _ (by omega) (by omega)]

/-- **`writeInt` means the decimal of a value of at most ten digits.** -/
theorem writeInt_text (n : Nat) (fits : n < 10 ^ 10) : intended (writeInt n) = (Json.num n).render := by
  have wrote := writeOTAInt_eq_decimal n fits
  unfold writeOTAInt at wrote
  simp only [writeInt, Nat.cast_eq_zero, Json.render, intText, Int.toNat_ofNat, Int.ofNat_lt, Nat.not_lt_zero,
    if_false, List.nil_append, Int.natCast_nonneg, not_lt.mpr]
  split_ifs with zero
  · subst zero
    rfl
  · rw [← wrote, if_neg zero, intended_map_byte]

theorem hexDigits_getD_plain (i : Nat) (small : i < 16) : plainByte (hexDigits.getD i 0) = true := by
  interval_cases i <;> rfl

/-- **`writeHex` means the text of a JSON string of hex digits.** -/
theorem writeHex_text (b : Bytes) : intended (writeHex b) = (Json.str (formatHashHex b)).render := by
  have plain : ∀ c ∈ formatHashHex b, plainByte c = true := by
    simp only [formatHashHex, List.mem_flatMap, List.mem_cons, List.not_mem_nil, or_false]
    rintro c ⟨x, -, rfl | rfl⟩
    · exact hexDigits_getD_plain _ (by have := x.toBitVec.isLt; simp only [UInt8.toNat] at *; omega)
    · exact hexDigits_getD_plain _ (Nat.mod_lt _ (by norm_num))
  rw [Json.render, quoteJson_plain _ plain]
  simp [writeHex, JsonWrite.bytes]

end Bindicator.Telemetry
