/-
**What `bindicator-cli ota-push` sends.**

`otaPush` writes `OTA\n`, waits for `READY`, then sends the image in passes of
`for i := 0; i < len(fw); i += otaChunkSize`: the chunk `fw[i:end]` after its four-byte
little-endian length, each pass waiting for the `ACK` of the one before; last comes
`DONE <hex digest>\n`. Of the replies it checks that the first starts with `READY`, the one
after each pass with `ACK`, and the last is `VERIFIED`, each trimmed by `strings.TrimSpace`
(`otaPushReplies`). The enable request over the console port is not part of the session and is
left out; the UF2 extraction is `Cli.Uf2`.

* `otaPushRounds_chunks`: the chunks of the passes, in order, are the image;
* `chunkRounds_length`: every chunk has one to `otaChunkSize` bytes;
* `isPrefixOf_trimAsciiSpace`: trimming keeps a word that starts and ends with no space.
-/

import Bindicator.Crypto.Sha256

namespace Bindicator.Cli

/-- `otaChunkSize = 4096`. -/
def otaChunkSize : Nat := 4096

/-- One pass of the chunk loop: the loop index `i` and `chunk := fw[i:end]`. -/
structure Round where
  index : Nat
  chunk : Bytes
  deriving DecidableEq, Repr

/-- `i + len(chunk)`: the bytes sent once the pass is acknowledged, as the progress line counts
them. -/
def Round.sent (round : Round) : Nat := round.index + round.chunk.length

/-- The chunk loop from index `i`, with `fuel` passes left: `end := i + otaChunkSize`, cut to
`len(fw)`, and `chunk := fw[i:end]`. -/
def chunkRounds (fw : Bytes) : Nat → Nat → List Round
  | 0, _ => []
  | fuel + 1, i =>
    if i < fw.length then
      ⟨i, (fw.drop i).take (min (i + otaChunkSize) fw.length - i)⟩ ::
        chunkRounds fw fuel (i + otaChunkSize)
    else []

/-- The passes over the whole image. Each takes at least one byte, so `len(fw)` passes are
enough. -/
def otaPushRounds (fw : Bytes) : List Round := chunkRounds fw fw.length 0

/-- `lenBuf`: `binary.LittleEndian.PutUint32(lenBuf, uint32(len(chunk)))`. -/
def lenBuf (chunk : Bytes) : Bytes := putUint32 (u32 chunk.length)

/-- The frames of the chunk loop: `conn.Write(lenBuf)`, then `conn.Write(chunk)`. -/
def chunkBytes (chunks : List Bytes) : Bytes := chunks.flatMap fun chunk => lenBuf chunk ++ chunk

/-- `fmt.Sprintf("DONE %s\n", fmt.Sprintf("%x", hash))` with `hash := sha256.Sum256(fw)`; `%x`
of a byte array prints each byte as two lowercase hex digits, as `formatHashHex` does. -/
def doneMessage (fw : Bytes) : Bytes := ascii "DONE " ++ formatHashHex (sha256 fw) ++ ascii "\n"

/-- Everything `otaPush` writes on the OTA connection, in order. -/
def otaPushStream (fw : Bytes) : Bytes :=
  ascii "OTA\n" ++ chunkBytes ((otaPushRounds fw).map Round.chunk) ++ doneMessage fw

/-! ## The replies `otaPush` checks -/

/-- The ASCII bytes `strings.TrimSpace` removes: `'\t'`, `'\n'`, `'\v'`, `'\f'`, `'\r'` and
`' '` (its other spaces, U+0085 and U+00A0, are not ASCII). -/
def isAsciiSpace (b : UInt8) : Bool := b == 9 || b == 10 || b == 11 || b == 12 || b == 13 || b == 32

/-- `strings.TrimSpace` on ASCII text. -/
def trimAsciiSpace (s : Bytes) : Bytes :=
  ((s.dropWhile isAsciiSpace).reverse.dropWhile isAsciiSpace).reverse

/-- Why `otaPush` gives up once connected, with the chunk number `i/otaChunkSize+1` and the
trimmed response its messages print. -/
inductive PushError where
  /-- `no response from device`: the read for `READY` failed. -/
  | noResponse
  /-- `unexpected response: %s`. -/
  | unexpectedResponse (resp : Bytes)
  /-- `chunk %d: no ACK`. -/
  | noAck (chunk : Nat)
  /-- `chunk %d: bad response: %s`. -/
  | badResponse (chunk : Nat) (resp : Bytes)
  /-- `verification failed`: the read failed (`none`) or did not say `VERIFIED`. -/
  | verificationFailed (resp : Option Bytes)
  deriving DecidableEq, Repr

/-- The chunk loop's reads: one per pass, trimmed, which must start with `ACK`; the reads left. -/
def ackRounds : List Round → List Bytes → Except PushError (List Bytes)
  | [], reads => .ok reads
  | round :: _, [] => .error (.noAck (round.index / otaChunkSize + 1))
  | round :: rounds, read :: reads =>
    if (ascii "ACK").isPrefixOf (trimAsciiSpace read) then ackRounds rounds reads
    else .error (.badResponse (round.index / otaChunkSize + 1) (trimAsciiSpace read))

/-- What `otaPush` makes of the reads of its OTA connection, `reads` being what each
`conn.Read` returned until one failed: `READY` first, an `ACK` per pass, then `VERIFIED`. -/
def otaPushReplies (fw : Bytes) : List Bytes → Except PushError Unit
  | [] => .error .noResponse
  | ready :: reads =>
    if !(ascii "READY").isPrefixOf (trimAsciiSpace ready) then
      .error (.unexpectedResponse (trimAsciiSpace ready))
    else
      match ackRounds (otaPushRounds fw) reads with
      | .error e => .error e
      | .ok [] => .error (.verificationFailed none)
      | .ok (verdict :: _) =>
        if trimAsciiSpace verdict = ascii "VERIFIED" then .ok ()
        else .error (.verificationFailed (some (trimAsciiSpace verdict)))

/-! ## The passes of the loop -/

theorem chunkRounds_of_le (fw : Bytes) (fuel i : Nat) (past : fw.length ≤ i) :
    chunkRounds fw fuel i = [] := by
  cases fuel <;> simp [chunkRounds, Nat.not_lt.mpr past]

/-- The chunk of a pass is the next `otaChunkSize` bytes, fewer at the end. -/
theorem chunk_eq_take (fw : Bytes) (i : Nat) :
    (fw.drop i).take (min (i + otaChunkSize) fw.length - i) = (fw.drop i).take otaChunkSize := by
  rw [List.take_eq_take, List.length_drop]
  omega

theorem chunkRounds_succ (fw : Bytes) (fuel i : Nat) (within : i < fw.length) :
    chunkRounds fw (fuel + 1) i =
      ⟨i, (fw.drop i).take otaChunkSize⟩ :: chunkRounds fw fuel (i + otaChunkSize) := by
  rw [chunkRounds, if_pos within, chunk_eq_take]

/-- With a pass left for every byte, the chunks from index `i` are the image from `i` on. -/
theorem chunkRounds_chunks (fw : Bytes) (fuel i : Nat) (enough : fw.length ≤ i + fuel) :
    ((chunkRounds fw fuel i).map Round.chunk).flatten = fw.drop i := by
  induction fuel generalizing i with
  | zero => simp [chunkRounds, List.drop_eq_nil_of_le (show fw.length ≤ i by omega)]
  | succ fuel ih =>
    by_cases within : i < fw.length
    · rw [chunkRounds_succ fw fuel i within, List.map_cons, List.flatten_cons,
        ih (i + otaChunkSize) (by unfold otaChunkSize; omega), ← List.drop_drop,
        List.take_append_drop]
    · simp [chunkRounds, within, List.drop_eq_nil_of_le (Nat.not_lt.mp within)]

/-- **The chunks `otaPush` sends are the image, in order.** -/
theorem otaPushRounds_chunks (fw : Bytes) : ((otaPushRounds fw).map Round.chunk).flatten = fw :=
  chunkRounds_chunks fw fw.length 0 (by omega)

/-- Every chunk is one to `otaChunkSize` bytes. -/
theorem chunkRounds_length (fw : Bytes) (fuel i : Nat) :
    ∀ round ∈ chunkRounds fw fuel i, 0 < round.chunk.length ∧ round.chunk.length ≤ otaChunkSize := by
  induction fuel generalizing i with
  | zero => simp [chunkRounds]
  | succ fuel ih =>
    by_cases within : i < fw.length
    · rw [chunkRounds_succ fw fuel i within]
      rintro round (_ | ⟨_, later⟩)
      · simp only [List.length_take, List.length_drop, otaChunkSize]
        omega
      · exact ih _ round later
    · simp [chunkRounds, within]

/-! ## The checks against well-formed replies -/

/-- **Trimming keeps a word that starts and ends with no space**, so it stays a prefix. -/
theorem isPrefixOf_trimAsciiSpace (p s : Bytes) (nonempty : p ≠ [])
    (first : ∀ b ∈ p.head?, isAsciiSpace b = false) (last : ∀ b ∈ p.getLast?, isAsciiSpace b = false) :
    p.isPrefixOf (trimAsciiSpace (p ++ s)) = true := by
  obtain ⟨a, m, rfl⟩ := List.exists_cons_of_ne_nil nonempty
  have keepFront : (a :: m ++ s).dropWhile isAsciiSpace = a :: m ++ s := by
    simp [List.dropWhile_cons, first a rfl]
  have keepBack : (a :: m).reverse.dropWhile isAsciiSpace = (a :: m).reverse := by
    obtain ⟨z, rest, back⟩ := List.exists_cons_of_ne_nil (List.reverse_ne_nil_iff.mpr nonempty)
    have lastZ : (a :: m).getLast? = some z := by
      rw [List.getLast?_eq_head?_reverse, back]
      rfl
    rw [back, List.dropWhile_cons, if_neg (by simp [last z lastZ])]
  rw [trimAsciiSpace, keepFront, List.reverse_append, List.dropWhile_append, List.isPrefixOf_iff_prefix]
  split
  · rw [keepBack, List.reverse_reverse]
  · rw [List.reverse_append, List.reverse_reverse]
    exact List.prefix_append _ _

end Bindicator.Cli
