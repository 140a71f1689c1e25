/-
**SHA-256, as `crypto/sha256` computes it (FIPS 180-4).**

Both ends of the OTA wire hash the firmware image: the device streams every chunk into
`sha256.New()` and compares `hasher.Sum(nil)` with the client's digest, the client calls
`sha256.Sum256(fw)`. Writing chunk after chunk into the hasher and then summing is the digest of
their concatenation, so the model's hasher is the list of bytes it has absorbed and its sum is
`sha256` of that list. The proofs of the development use one fact of `sha256`, that a digest has
32 bytes (`sha256_length`); every other result holds of whatever digest function stands here.
-/

import Bindicator.Bytes

namespace Bindicator.Sha256

/-- The sixty-four round constants `K`. -/
def roundConstants : List UInt32 :=
  [0x428a2f98, 0x71374491, 0xb5c0fbcf, 0xe9b5dba5, 0x3956c25b, 0x59f111f1, 0x923f82a4, 0xab1c5ed5,
   0xd807aa98, 0x12835b01, 0x243185be, 0x550c7dc3, 0x72be5d74, 0x80deb1fe, 0x9bdc06a7, 0xc19bf174,
   0xe49b69c1, 0xefbe4786, 0x0fc19dc6, 0x240ca1cc, 0x2de92c6f, 0x4a7484aa, 0x5cb0a9dc, 0x76f988da,
   0x983e5152, 0xa831c66d, 0xb00327c8, 0xbf597fc7, 0xc6e00bf3, 0xd5a79147, 0x06ca6351, 0x14292967,
   0x27b70a85, 0x2e1b2138, 0x4d2c6dfc, 0x53380d13, 0x650a7354, 0x766a0abb, 0x81c2c92e, 0x92722c85,
   0xa2bfe8a1, 0xa81a664b, 0xc24b8b70, 0xc76c51a3, 0xd192e819, 0xd6990624, 0xf40e3585, 0x106aa070,
   0x19a4c116, 0x1e376c08, 0x2748774c, 0x34b0bcb5, 0x391c0cb3, 0x4ed8aa4a, 0x5b9cca4f, 0x682e6ff3,
   0x748f82ee, 0x78a5636f, 0x84c87814, 0x8cc70208, 0x90befffa, 0xa4506ceb, 0xbef9a3f7, 0xc67178f2]

/-- The initial hash value `H⁰`. -/
def initialHash : List UInt32 :=
  [0x6a09e667, 0xbb67ae85, 0x3c6ef372, 0xa54ff53a, 0x510e527f, 0x9b05688c, 0x1f83d9ab, 0x5be0cd19]

/-- Rotation right by `n < 32`. -/
def rotr (x n : UInt32) : UInt32 := (x >>> n) ||| (x <<< (32 - n))

def bigSigma0 (x : UInt32) : UInt32 := rotr x 2 ^^^ rotr x 13 ^^^ rotr x 22
def bigSigma1 (x : UInt32) : UInt32 := rotr x 6 ^^^ rotr x 11 ^^^ rotr x 25
def smallSigma0 (x : UInt32) : UInt32 := rotr x 7 ^^^ rotr x 18 ^^^ (x >>> 3)
def smallSigma1 (x : UInt32) : UInt32 := rotr x 17 ^^^ rotr x 19 ^^^ (x >>> 10)

/-- The big-endian word at byte `i` of a block. -/
def beWord (block : Bytes) (i : Nat) : UInt32 :=
  ((block.getD i 0).toUInt32 <<< 24) ||| ((block.getD (i + 1) 0).toUInt32 <<< 16) |||
    ((block.getD (i + 2) 0).toUInt32 <<< 8) ||| (block.getD (i + 3) 0).toUInt32

/-- The message schedule: the block's sixteen words, extended to sixty-four. -/
def schedule (block : Bytes) : List UInt32 :=
  (List.range 48).foldl (fun w t => w ++ [smallSigma1 (w.getD (t + 14) 0) + w.getD (t + 9) 0 +
      smallSigma0 (w.getD (t + 1) 0) + w.getD t 0])
    ((List.range 16).map fun i => beWord block (4 * i))

/-- One compression round on the working variables `a, …, h`. -/
def round (v : List UInt32) (k w : UInt32) : List UInt32 :=
  match v with
  | [a, b, c, d, e, f, g, h] =>
    let t1 := h + bigSigma1 e + ((e &&& f) ^^^ (~~~e &&& g)) + k + w
    let t2 := bigSigma0 a + ((a &&& b) ^^^ (a &&& c) ^^^ (b &&& c))
    [t1 + t2, a, b, c, d + t1, e, f, g]
  | v => v

/-- The compression function on one 64-byte block. -/
def compress (hash : List UInt32) (block : Bytes) : List UInt32 :=
  List.zipWith (· + ·) hash
    ((roundConstants.zip (schedule block)).foldl (fun v kw => round v kw.1 kw.2) hash)

/-- Padding: `0x80`, zeros up to 56 mod 64, and the bit length as a big-endian 64-bit word. -/
def pad (message : Bytes) : Bytes :=
  message ++ [0x80] ++ List.replicate ((119 - message.length % 64) % 64) 0 ++
    (List.range 8).reverse.map fun i => UInt8.ofNat (8 * message.length / 2 ^ (8 * i))

/-- A word as four big-endian bytes. -/
def wordBytes (w : UInt32) : Bytes :=
  [(w >>> 24).toUInt8, (w >>> 16).toUInt8, (w >>> 8).toUInt8, w.toUInt8]

theorem round_length (v : List UInt32) (k w : UInt32) : (round v k w).length = v.length := by
  unfold round
  split <;> rfl

/-- The compression keeps the eight words of the hash. -/
theorem compress_length (hash : List UInt32) (block : Bytes) :
    (compress hash block).length = hash.length := by
  have rounds : ∀ (kws : List (UInt32 × UInt32)) (v : List UInt32),
      (kws.foldl (fun v kw => round v kw.1 kw.2) v).length = v.length := by
    intro kws
    induction kws with
    | nil => intro v; rfl
    | cons kw kws ih => intro v; rw [List.foldl_cons, ih, round_length]
  rw [compress, List.length_zipWith, rounds, min_self]

end Sha256

/-- `sha256.Sum256`: the 32-byte digest of a message. -/
def sha256 (message : Bytes) : Bytes :=
  ((Sha256.pad message).toChunks 64 |>.foldl Sha256.compress Sha256.initialHash).flatMap
    Sha256.wordBytes

/-- A digest is 32 bytes. -/
theorem sha256_length (message : Bytes) : (sha256 message).length = 32 := by
  have blocks : ∀ (chunks : List Bytes) (hash : List UInt32),
      (chunks.foldl Sha256.compress hash).length = hash.length := by
    intro chunks
    induction chunks with
    | nil => intro hash; rfl
    | cons chunk chunks ih => intro hash; rw [List.foldl_cons, ih, Sha256.compress_length]
  have wordLength : List.length ∘ Sha256.wordBytes = fun _ => 4 := rfl
  rw [sha256, List.flatMap, List.length_flatten, List.map_map, wordLength, List.map_const',
    List.sum_replicate, blocks]
  rfl

end Bindicator
