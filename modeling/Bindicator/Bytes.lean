/-
**Byte strings on the wire, and the small codecs of the OTA server and its client.**

Go strings and byte slices are `Bytes`, lists of `UInt8`; a text literal is `ascii "..."`.
The codecs are translated from the loops that compute them:

* `writeOTAInt` (`ota_server.go`, and `writeHTTPInt` in telemetry): `'0'` for zero, else the
  digit loop over a ten-byte buffer. `writeOTAInt_eq_decimal`: below `10 ^ 10` it writes
  `decimal n`, the digits of `Nat.digits 10 n` most significant first.
* `leUint32` / `putUint32` (`binary.LittleEndian`): `leUint32_putUint32`, the round trip of a
  `uint32`.
* `formatHashHex`: two lower-case hex digits per byte; no digit is a byte `trimSpace` removes
  (`formatHashHex_noSpace`), so `trimSpace` keeps a digest and drops the line end after it
  (`trimSpace_append_spaces`).
-/

import Mathlib.Data.Nat.Digits
import Mathlib.Data.List.GetD

namespace Bindicator

/-- A Go string or byte slice. -/
abbrev Bytes := List UInt8

/-- The bytes of an ASCII literal, as `[]byte("...")` gives them. -/
def ascii (text : String) : Bytes := text.toList.map fun c => UInt8.ofNat c.toNat

/-- Unsigned 32-bit arithmetic: the value kept by a `uint32` variable. -/
def u32 (n : Nat) : Nat := n % 2 ^ 32

/-! ## Decimal digits -/

/-- The byte `'0' + d`. -/
def digitByte (d : Nat) : UInt8 := UInt8.ofNat (48 + d)

/-- The decimal representation of `n`, most significant digit first, `"0"` for zero. -/
def decimal (n : Nat) : Bytes :=
  if n = 0 then [digitByte 0] else ((Nat.digits 10 n).map digitByte).reverse

/-- The loop `for n > 0 { i--; buf[i] = byte('0' + n%10); n /= 10 }` over `slots` free bytes of
the buffer: the bytes `buf[i:]` it leaves. -/
def fillDigits : Nat → Nat → Bytes
  | 0, _ => []
  | slots + 1, n => if n = 0 then [] else fillDigits slots (n / 10) ++ [digitByte (n % 10)]

/-- `writeOTAInt`: `'0'` for zero, else the digit loop over `var buf [10]byte`. -/
def writeOTAInt (n : Nat) : Bytes := if n = 0 then [digitByte 0] else fillDigits 10 n

theorem fillDigits_eq (slots n : Nat) (fits : n < 10 ^ slots) :
    fillDigits slots n = ((Nat.digits 10 n).map digitByte).reverse := by
  induction slots generalizing n with
  | zero =>
    obtain rfl : n = 0 := by simpa using fits
    simp [fillDigits]
  | succ slots ih =>
    by_cases zero : n = 0
    · simp [fillDigits, zero]
    · have rest : n / 10 < 10 ^ slots :=
        (Nat.div_lt_iff_lt_mul (by norm_num)).mpr (by rwa [pow_succ] at fits)
      rw [fillDigits, if_neg zero, ih _ rest, @Nat.digits_def' 10 (by norm_num) n (by omega)]
      simp

/-- **`writeOTAInt` writes the decimal of every value its buffer holds.** -/
theorem writeOTAInt_eq_decimal (n : Nat) (fits : n < 10 ^ 10) : writeOTAInt n = decimal n := by
  unfold writeOTAInt decimal
  split
  · rfl
  · exact fillDigits_eq 10 n fits

/-! ## Little-endian words -/

/-- `binary.LittleEndian.Uint32(b)`: the first four bytes, least significant first. -/
def leUint32 (b : Bytes) : Nat :=
  (b.getD 0 0).toNat + (b.getD 1 0).toNat * 2 ^ 8 + (b.getD 2 0).toNat * 2 ^ 16 +
    (b.getD 3 0).toNat * 2 ^ 24

/-- `binary.LittleEndian.PutUint32(b, v)` on a four-byte buffer: `byte(v)`, `byte(v >> 8)`, ... -/
def putUint32 (v : Nat) : Bytes :=
  [UInt8.ofNat v, UInt8.ofNat (v / 2 ^ 8), UInt8.ofNat (v / 2 ^ 16), UInt8.ofNat (v / 2 ^ 24)]

@[simp] theorem putUint32_length (v : Nat) : (putUint32 v).length = 4 := rfl

/-- **Little-endian round trip**: decoding the four bytes of `PutUint32(v)` gives `uint32(v)`. -/
theorem leUint32_putUint32 (v : Nat) : leUint32 (putUint32 v) = u32 v := by
  show v % 256 + v / 2 ^ 8 % 256 * 2 ^ 8 + v / 2 ^ 16 % 256 * 2 ^ 16 + v / 2 ^ 24 % 256 * 2 ^ 24 =
    v % 2 ^ 32
  omega

/-! ## Hex digests and `trimSpace` -/

/-- `const hexDigits = "0123456789abcdef"`. -/
def hexDigits : Bytes := ascii "0123456789abcdef"

/-- `formatHashHex`: `hexDigits[b>>4]` then `hexDigits[b&0xf]` for every byte. Fmt's `%x` on a
byte array writes the same two lower-case digits per byte. -/
def formatHashHex (hash : Bytes) : Bytes :=
  hash.flatMap fun b => [hexDigits.getD (b.toNat / 16) 0, hexDigits.getD (b.toNat % 16) 0]

theorem formatHashHex_length (hash : Bytes) : (formatHashHex hash).length = 2 * hash.length := by
  induction hash with
  | nil => rfl
  | cons b hash ih =>
    rw [formatHashHex, List.flatMap_cons, List.length_append, ← formatHashHex, ih]
    simp only [List.length_cons, List.length_nil]
    omega

/-- The bytes `trimSpace` removes: `' '`, `'\n'` and `'\r'`. -/
def isSpaceByte (b : UInt8) : Bool := b == 32 || b == 10 || b == 13

/-- `trimSpace`: advance `start` past leading space bytes, then pull `end` back past trailing
ones (never below `start`). -/
def trimSpace (s : Bytes) : Bytes :=
  ((s.dropWhile isSpaceByte).reverse.dropWhile isSpaceByte).reverse

theorem hexDigits_getD_noSpace (i : Nat) : isSpaceByte (hexDigits.getD i 0) = false := by
  by_cases small : i < 16
  · interval_cases i <;> rfl
  · rw [List.getD_eq_default _ _ (by simpa [hexDigits, ascii] using small)]; rfl

/-- No byte of a hex digest is one `trimSpace` removes. -/
theorem formatHashHex_noSpace (hash : Bytes) : ∀ b ∈ formatHashHex hash, isSpaceByte b = false := by
  simp only [formatHashHex, List.mem_flatMap, List.mem_cons, List.not_mem_nil, or_false]
  rintro b ⟨x, -, rfl | rfl⟩ <;> exact hexDigits_getD_noSpace _

theorem dropWhile_noSpace (s : Bytes) (clean : ∀ b ∈ s, isSpaceByte b = false) :
    s.dropWhile isSpaceByte = s := by
  cases s with
  | nil => rfl
  | cons b s => simp [List.dropWhile_cons, clean b (List.mem_cons_self _ _)]

/-- **`trimSpace` keeps a word with no space byte and drops the spaces after it.** -/
theorem trimSpace_append_spaces (s t : Bytes) (clean : ∀ b ∈ s, isSpaceByte b = false)
    (spaces : ∀ b ∈ t, isSpaceByte b = true) : trimSpace (s ++ t) = s := by
  have cleanRev : ∀ b ∈ s.reverse, isSpaceByte b = false :=
    fun b mem => clean b (List.mem_reverse.mp mem)
  have dropT : t.dropWhile isSpaceByte = [] := List.dropWhile_eq_nil_iff.mpr spaces
  have dropRev : t.reverse.dropWhile isSpaceByte = [] :=
    List.dropWhile_eq_nil_iff.mpr fun b mem => spaces b (List.mem_reverse.mp mem)
  unfold trimSpace
  by_cases empty : s = []
  · subst empty
    simp [dropT]
  · simp [List.dropWhile_append, dropWhile_noSpace s clean, dropWhile_noSpace _ cleanRev, dropRev,
      empty]

end Bindicator
