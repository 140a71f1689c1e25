/-
**Extracting the image from a UF2 file: `extractUF2Binary`.**

A UF2 file is a run of 512-byte blocks, each with three magic numbers, a `targetAddr`, a
`payloadSize` and up to 476 payload bytes at offset 32. `extractUF2Binary` makes two passes: the
first checks the magic numbers and finds `minAddr` and `maxAddr` with `uint32` sums; the second
copies each payload, cut to 476 bytes, to `targetAddr - minAddr` in a zeroed buffer of
`maxAddr - minAddr` bytes. A slice out of range is a run-time panic, which `Extracted.panic`
stands for.

* `extractUF2Binary_wrapping_block_panics`: a block whose end wraps past `2 ^ 32` makes the
  second pass slice past the buffer;
* `extractUF2Binary_no_panic`: without such a block, there is no panic;
* `extractUF2Binary_wellFormed`: on a well-formed file the buffer holds every payload at its
  address, zero elsewhere.
-/

import Bindicator.Bytes

namespace Bindicator.Cli

/-- The errors of `extractUF2Binary`. -/
inductive Uf2Error where
  /-- `"file too small to be UF2"`. -/
  | tooSmall
  /-- `"UF2 file size not multiple of 512"`. -/
  | notMultiple
  /-- `"block %d: invalid magic"`. -/
  | invalidMagic (block : Nat)
  /-- `"extracted binary too large: %d bytes"`. -/
  | tooLarge (size : Nat)
  deriving DecidableEq, Repr

/-- What a call of `extractUF2Binary` comes to. -/
inductive Extracted where
  | error (e : Uf2Error)
  | output (binary : Bytes)
  /-- A slice or index out of range. -/
  | panic
  deriving DecidableEq, Repr

/-- `uf2Data[i*512 : (i+1)*512]`. -/
def blockAt (data : Bytes) (i : Nat) : Bytes := (data.drop (i * 512)).take 512

/-- The blocks of the file, `numBlocks = len(uf2Data) / 512` of them. -/
def blocks (data : Bytes) : List Bytes := (List.range (data.length / 512)).map (blockAt data)

/-- The three magic numbers, at offsets 0, 4 and 508. -/
def hasMagic (block : Bytes) : Bool :=
  leUint32 block == 0x0A324655 && leUint32 (block.drop 4) == 0x9E5D5157 &&
    leUint32 (block.drop 508) == 0x0AB16F30

/-- `binary.LittleEndian.Uint32(block[12:16])`. -/
def targetAddr (block : Bytes) : Nat := leUint32 (block.drop 12)

/-- `binary.LittleEndian.Uint32(block[16:20])`. -/
def payloadSize (block : Bytes) : Nat := leUint32 (block.drop 16)

/-- The first pass from block `i`: the magic check, then `minAddr` and `maxAddr`, the end of a
block being the `uint32` sum `targetAddr + payloadSize`. -/
def scanBlocks (i minAddr maxAddr : Nat) : List Bytes → Except Uf2Error (Nat × Nat)
  | [] => .ok (minAddr, maxAddr)
  | block :: rest =>
    if hasMagic block then
      scanBlocks (i + 1) (if targetAddr block < minAddr then targetAddr block else minAddr)
        (if maxAddr < u32 (targetAddr block + payloadSize block) then
          u32 (targetAddr block + payloadSize block) else maxAddr) rest
    else .error (.invalidMagic i)

/-- `copy(dst, src)` into `output` at `offset`: `min(len(dst), len(src))` bytes, where `dst` runs
to the end of the slice expression. -/
def writeAt (output : Bytes) (offset : Nat) (src : Bytes) : Bytes :=
  output.take offset ++ src ++ output.drop (offset + src.length)

/-- One block of the second pass: `payloadSize` cut to 476, `offset := targetAddr - minAddr` and
the slice `output[offset : offset+payloadSize]`, both in `uint32`; `none` when a slice is out of
range. -/
def copyBlock (minAddr : Nat) (output block : Bytes) : Option Bytes :=
  let size := if 476 < payloadSize block then 476 else payloadSize block
  let offset := u32 (targetAddr block + 2 ^ 32 - minAddr)
  let high := u32 (offset + size)
  if offset ≤ high ∧ high ≤ output.length ∧ 32 + size ≤ block.length then
    some (writeAt output offset ((block.drop 32).take (min (high - offset) size)))
  else none

/-- The second pass. -/
def copyBlocks (minAddr : Nat) (output : Bytes) : List Bytes → Option Bytes
  | [] => some output
  | block :: rest => (copyBlock minAddr output block).bind fun output => copyBlocks minAddr output rest

/-- `extractUF2Binary(uf2Data)`. -/
def extractUF2Binary (data : Bytes) : Extracted :=
  if data.length < 512 then .error .tooSmall
  else if data.length % 512 ≠ 0 then .error .notMultiple
  else
    match scanBlocks 0 0xFFFFFFFF 0 (blocks data) with
    | .error e => .error e
    | .ok (minAddr, maxAddr) =>
      if 4 * 1024 * 1024 < u32 (maxAddr + 2 ^ 32 - minAddr) then
        .error (.tooLarge (u32 (maxAddr + 2 ^ 32 - minAddr)))
      else
        match copyBlocks minAddr (List.replicate (u32 (maxAddr + 2 ^ 32 - minAddr)) 0) (blocks data) with
        | some output => .output output
        | none => .panic

/-- The end of a block's range, `targetAddr + payloadSize`, without wrapping. -/
def blockEnd (block : Bytes) : Nat := targetAddr block + payloadSize block

/-- The lowest `targetAddr` of the file's blocks. -/
def minStart (data : Bytes) : Nat := ((blocks data).map targetAddr).min?.getD 0

/-- The highest block end of the file. -/
def maxEnd (data : Bytes) : Nat := ((blocks data).map blockEnd).max?.getD 0

/-- **A well-formed UF2 file**: whole blocks, at least one, each with its magic numbers, at most
476 payload bytes and an end below `2 ^ 32`, no two blocks' ranges overlapping, and at most
4 MiB from the lowest address to the highest end. -/
structure WellFormedUf2 (data : Bytes) : Prop where
  nonempty : 0 < data.length
  aligned : data.length % 512 = 0
  magic : ∀ b ∈ blocks data, hasMagic b = true
  small : ∀ b ∈ blocks data, payloadSize b ≤ 476
  noWrap : ∀ b ∈ blocks data, blockEnd b < 2 ^ 32
  disjoint : (blocks data).Pairwise fun b c => blockEnd b ≤ targetAddr c ∨ blockEnd c ≤ targetAddr b
  span : maxEnd data - minStart data ≤ 4 * 1024 * 1024

/-- A block with the three magic numbers, the given `targetAddr` and `payloadSize`, and `data` as
its payload area. -/
def uf2Block (addr size : Nat) (payload : Bytes) : Bytes :=
  putUint32 0x0A324655 ++ putUint32 0x9E5D5157 ++ List.replicate 4 0 ++ putUint32 addr ++
    putUint32 size ++ List.replicate 12 0 ++ (payload ++ List.replicate 476 0).take 476 ++
    putUint32 0x0AB16F30

/-- Two blocks of `TestExtractUF2Binary_NonSequentialBlocks`: 256 bytes at `0x10001000` and 256 at
`0x10003000`, with a gap between them. -/
def gapFile : Bytes :=
  uf2Block 0x10001000 256 (List.replicate 256 0xA0) ++ uf2Block 0x10003000 256 (List.replicate 256 0xA2)

/-! ## The second pass -/

theorem writeAt_length (output src : Bytes) (offset : Nat) (fits : offset + src.length ≤ output.length) :
    (writeAt output offset src).length = output.length := by
  simp only [writeAt, List.length_append, List.length_take, List.length_drop]
  omega

theorem writeAt_getD_inside (output src : Bytes) (offset j : Nat) (inside : j < src.length)
    (fits : offset + src.length ≤ output.length) :
    (writeAt output offset src).getD (offset + j) 0 = src.getD j 0 := by
  have taken : (output.take offset).length = offset := by simp; omega
  rw [writeAt, List.append_assoc, List.getD_append_right _ _ _ _ (by omega), taken, Nat.add_sub_cancel_left,
    List.getD_append _ _ _ _ inside]

theorem writeAt_getD_outside (output src : Bytes) (offset a : Nat)
    (outside : a < offset ∨ offset + src.length ≤ a) (fits : offset + src.length ≤ output.length) :
    (writeAt output offset src).getD a 0 = output.getD a 0 := by
  have taken : (output.take offset).length = offset := by simp; omega
  rcases outside with before | after
  · rw [writeAt, List.append_assoc, List.getD_append _ _ _ _ (by omega)]
    simp [List.getElem?_take, before]
  · rw [writeAt, List.getD_append_right _ _ _ _ (by simp; omega)]
    simp only [List.length_append, taken, List.getD_eq_getElem?_getD, List.getElem?_drop]
    congr 2
    omega

/-- The bytes of a payload the second pass copies: at most 476. -/
def copiedSize (block : Bytes) : Nat := min (payloadSize block) 476

/-- The payload bytes copied. -/
def copied (block : Bytes) : Bytes := (block.drop 32).take (copiedSize block)

theorem copied_length (block : Bytes) (long : block.length = 512) : (copied block).length = copiedSize block := by
  simp only [copied, copiedSize, List.length_take, List.length_drop, long]
  omega

/-- A block whose copy fits the buffer is written at `targetAddr - minAddr`. -/
theorem copyBlock_of_fits {minAddr : Nat} {output block : Bytes} (low : minAddr ≤ targetAddr block)
    (fits : targetAddr block - minAddr + copiedSize block ≤ output.length) (short : output.length < 2 ^ 32)
    (long : block.length = 512) :
    copyBlock minAddr output block = some (writeAt output (targetAddr block - minAddr) (copied block)) := by
  have size : (if 476 < payloadSize block then 476 else payloadSize block) = copiedSize block := by
    unfold copiedSize; split <;> omega
  have offset : u32 (targetAddr block + 2 ^ 32 - minAddr) = targetAddr block - minAddr := by
    unfold u32
    rw [show targetAddr block + 2 ^ 32 - minAddr = targetAddr block - minAddr + 2 ^ 32 by omega,
      Nat.add_mod_right, Nat.mod_eq_of_lt (by omega)]
  have high : u32 (targetAddr block - minAddr + copiedSize block) = targetAddr block - minAddr + copiedSize block :=
    Nat.mod_eq_of_lt (by omega)
  have sizeLe : copiedSize block ≤ 476 := Nat.min_le_right _ _
  simp only [copyBlock, size, offset, high, Nat.add_sub_cancel_left, Nat.min_self, long]
  rw [if_pos ⟨by omega, fits, by omega⟩]
  rfl

/-- A block the second pass can copy into a buffer of `size` bytes: at or above `minAddr`, its
copy within the buffer, a whole block. -/
def Fits (minAddr size : Nat) (block : Bytes) : Prop :=
  minAddr ≤ targetAddr block ∧ targetAddr block - minAddr + copiedSize block ≤ size ∧ block.length = 512

/-- Two blocks whose copies do not overlap. -/
def Apart (minAddr : Nat) (b c : Bytes) : Prop :=
  targetAddr b - minAddr + copiedSize b ≤ targetAddr c - minAddr ∨
    targetAddr c - minAddr + copiedSize c ≤ targetAddr b - minAddr

theorem copied_getD (block : Bytes) (j : Nat) (inside : j < copiedSize block) :
    (copied block).getD j 0 = block.getD (32 + j) 0 := by
  simp [copied, List.getElem?_take, inside, List.getElem?_drop]

/-- The second pass runs through when every block fits. -/
theorem copyBlocks_some (minAddr : Nat) (bs : List Bytes) (output : Bytes) (short : output.length < 2 ^ 32)
    (fit : ∀ b ∈ bs, Fits minAddr output.length b) :
    ∃ out, copyBlocks minAddr output bs = some out ∧ out.length = output.length := by
  induction bs generalizing output with
  | nil => exact ⟨output, rfl, rfl⟩
  | cons c rest ih =>
    obtain ⟨low, fits, long⟩ := fit c (List.mem_cons_self _ _)
    have same := writeAt_length output (copied c) (targetAddr c - minAddr) (by rw [copied_length c long]; exact fits)
    obtain ⟨out, run, length⟩ := ih (writeAt output (targetAddr c - minAddr) (copied c)) (same ▸ short)
      (fun b mem => same ▸ fit b (List.mem_cons_of_mem _ mem))
    exact ⟨out, by rw [copyBlocks, copyBlock_of_fits low fits short long, Option.some_bind, run], length.trans same⟩

/-- **What the second pass writes**, when the copies do not overlap: each block's payload at its
offset, and the buffer as it was wherever no block reaches. -/
theorem copyBlocks_content (minAddr : Nat) (bs : List Bytes) (output out : Bytes) (short : output.length < 2 ^ 32)
    (fit : ∀ b ∈ bs, Fits minAddr output.length b) (apart : bs.Pairwise (Apart minAddr))
    (run : copyBlocks minAddr output bs = some out) :
    (∀ b ∈ bs, ∀ j < copiedSize b, out.getD (targetAddr b - minAddr + j) 0 = b.getD (32 + j) 0) ∧
      ∀ a, (∀ b ∈ bs, ¬(targetAddr b - minAddr ≤ a ∧ a < targetAddr b - minAddr + copiedSize b)) →
        out.getD a 0 = output.getD a 0 := by
  induction bs generalizing output with
  | nil =>
    cases run
    exact ⟨nofun, fun _ _ => rfl⟩
  | cons c rest ih =>
    obtain ⟨low, fits, long⟩ := fit c (List.mem_cons_self _ _)
    obtain ⟨apartC, apartRest⟩ := List.pairwise_cons.mp apart
    have inside : targetAddr c - minAddr + (copied c).length ≤ output.length := by
      rwa [copied_length c long]
    have same := writeAt_length output (copied c) (targetAddr c - minAddr) inside
    rw [copyBlocks, copyBlock_of_fits low fits short long, Option.some_bind] at run
    obtain ⟨placed, kept⟩ := ih _ (same ▸ short) (fun b mem => same ▸ fit b (List.mem_cons_of_mem _ mem))
      apartRest run
    refine ⟨fun b mem j small => ?_, fun a untouched => ?_⟩
    · rcases List.mem_cons.mp mem with rfl | later
      · rw [kept _ fun d memD covers => by have := apartC d memD; unfold Apart at this; omega,
          writeAt_getD_inside _ _ _ _ (by rw [copied_length b long]; exact small) inside, copied_getD _ _ small]
      · exact placed b later j small
    · rw [kept a fun b mem => untouched b (List.mem_cons_of_mem _ mem),
        writeAt_getD_outside _ _ _ _ ?_ inside]
      have := untouched c (List.mem_cons_self _ _)
      rw [copied_length c long]
      omega

/-! ## The first pass -/

theorem leUint32_lt (b : Bytes) : leUint32 b < 2 ^ 32 := by
  have h0 : (b.getD 0 0).toNat < 256 := (b.getD 0 0).toBitVec.isLt
  have h1 : (b.getD 1 0).toNat < 256 := (b.getD 1 0).toBitVec.isLt
  have h2 : (b.getD 2 0).toNat < 256 := (b.getD 2 0).toBitVec.isLt
  have h3 : (b.getD 3 0).toNat < 256 := (b.getD 3 0).toBitVec.isLt
  unfold leUint32
  omega

theorem blocks_length (data : Bytes) (aligned : data.length % 512 = 0) : ∀ b ∈ blocks data, b.length = 512 := by
  intro b mem
  obtain ⟨i, small, rfl⟩ := List.mem_map.mp mem
  rw [List.mem_range] at small
  simp only [blockAt, List.length_take, List.length_drop]
  omega

/-- The first pass over blocks that all have their magic numbers: `minAddr` and `maxAddr` are the
running minimum and maximum. -/
theorem scanBlocks_ok (i minAddr maxAddr : Nat) (bs : List Bytes) (magic : ∀ b ∈ bs, hasMagic b = true) :
    scanBlocks i minAddr maxAddr bs = .ok (bs.foldl (fun m b => min m (targetAddr b)) minAddr,
      bs.foldl (fun m b => max m (u32 (targetAddr b + payloadSize b))) maxAddr) := by
  induction bs generalizing i minAddr maxAddr with
  | nil => rfl
  | cons b bs ih =>
    have low : (if targetAddr b < minAddr then targetAddr b else minAddr) = min minAddr (targetAddr b) := by
      split <;> omega
    have high : (if maxAddr < u32 (targetAddr b + payloadSize b) then u32 (targetAddr b + payloadSize b)
        else maxAddr) = max maxAddr (u32 (targetAddr b + payloadSize b)) := by
      split <;> omega
    rw [scanBlocks, if_pos (magic b (List.mem_cons_self _ _)), low, high,
      ih _ _ _ fun c mem => magic c (List.mem_cons_of_mem _ mem)]
    rfl

/-- A first pass that gets through has seen every magic number. -/
theorem scanBlocks_magic {i minAddr maxAddr : Nat} {bs : List Bytes} {found : Nat × Nat}
    (ok : scanBlocks i minAddr maxAddr bs = .ok found) : ∀ b ∈ bs, hasMagic b = true := by
  induction bs generalizing i minAddr maxAddr with
  | nil => nofun
  | cons b bs ih =>
    unfold scanBlocks at ok
    split at ok
    · rename_i good
      intro c mem
      rcases List.mem_cons.mp mem with rfl | later
      · exact good
      · exact ih ok c later
    · cases ok

/-- **The first pass finds `minStart` and `maxEnd`** on whole blocks, at least one, that all have
their magic numbers and do not wrap; every block lies between them. -/
theorem scanBlocks_blocks (data : Bytes) (nonempty : 0 < data.length) (aligned : data.length % 512 = 0)
    (magic : ∀ b ∈ blocks data, hasMagic b = true) (noWrap : ∀ b ∈ blocks data, blockEnd b < 2 ^ 32) :
    scanBlocks 0 0xFFFFFFFF 0 (blocks data) = .ok (minStart data, maxEnd data) ∧
      (∀ b ∈ blocks data, minStart data ≤ targetAddr b ∧ blockEnd b ≤ maxEnd data) ∧
      minStart data ≤ maxEnd data ∧ maxEnd data < 2 ^ 32 := by
  have present : blocks data ≠ [] := by
    rw [blocks, Ne, List.map_eq_nil_iff, List.range_eq_nil]
    omega
  obtain ⟨first, rest, split⟩ := List.exists_cons_of_ne_nil present
  have ends : (blocks data).map (fun b => u32 (targetAddr b + payloadSize b)) = (blocks data).map blockEnd :=
    List.map_congr_left fun b mem => Nat.mod_eq_of_lt (noWrap b mem)
  have minSome : ((blocks data).map targetAddr).min? = some (minStart data) := by
    rw [minStart, split, List.map_cons, List.min?_cons']
    rfl
  have maxSome : ((blocks data).map blockEnd).max? = some (maxEnd data) := by
    rw [maxEnd, split, List.map_cons, List.max?_cons']
    rfl
  obtain ⟨-, lowest⟩ := List.min?_eq_some_iff'.mp minSome
  obtain ⟨reached, highest⟩ := List.max?_eq_some_iff'.mp maxSome
  have bounds : ∀ b ∈ blocks data, minStart data ≤ targetAddr b ∧ blockEnd b ≤ maxEnd data :=
    fun b mem => ⟨lowest _ (List.mem_map_of_mem _ mem), highest _ (List.mem_map_of_mem _ mem)⟩
  refine ⟨?_, bounds, ?_, ?_⟩
  · rw [scanBlocks_ok _ _ _ _ magic, ← List.foldl_map, ← List.foldl_map _ (fun m b => max m b), ends]
    rw [minStart, maxEnd, split, List.map_cons, List.map_cons, List.min?_cons', List.max?_cons',
      List.foldl_cons, List.foldl_cons]
    have firstLow := leUint32_lt (first.drop 12)
    simp only [Option.getD_some, Nat.zero_max]
    rw [Nat.min_eq_right (by unfold targetAddr; omega)]
  · have := bounds first (split ▸ List.mem_cons_self _ _)
    unfold blockEnd at this
    omega
  · obtain ⟨b, mem, same⟩ := List.mem_map.mp reached
    exact same ▸ noWrap b mem

/-! ## The whole extraction -/

/-- **Without a wrapping block there is no panic**: when no block's `targetAddr + payloadSize`
reaches `2 ^ 32`, `extractUF2Binary` returns an error or a buffer. -/
theorem extractUF2Binary_no_panic (data : Bytes) (noWrap : ∀ b ∈ blocks data, blockEnd b < 2 ^ 32) :
    extractUF2Binary data ≠ .panic := by
  unfold extractUF2Binary
  split_ifs with short misaligned
  · nofun
  · nofun
  split
  · nofun
  rename_i minAddr maxAddr scanned
  obtain ⟨ok, bounds, ordered, below⟩ :=
    scanBlocks_blocks data (by omega) (by omega) (scanBlocks_magic scanned) noWrap
  rw [ok] at scanned
  cases scanned
  have size : u32 (maxEnd data + 2 ^ 32 - minStart data) = maxEnd data - minStart data := by
    unfold u32
    rw [show maxEnd data + 2 ^ 32 - minStart data = maxEnd data - minStart data + 2 ^ 32 by omega,
      Nat.add_mod_right, Nat.mod_eq_of_lt (by omega)]
  rw [size]
  split_ifs
  · nofun
  obtain ⟨out, run, -⟩ := copyBlocks_some (minStart data) (blocks data)
    (List.replicate (maxEnd data - minStart data) 0)
    (by rw [List.length_replicate]; omega) fun b mem => by
      have := bounds b mem
      unfold blockEnd at this
      exact ⟨this.1, by rw [List.length_replicate]; unfold copiedSize; omega,
        blocks_length data (by omega) b mem⟩
  rw [run]
  nofun

set_option maxRecDepth 20000 in
theorem extractUF2Binary_no_panic_gap :
    (∀ b ∈ blocks gapFile, blockEnd b < 2 ^ 32) ∧ extractUF2Binary gapFile ≠ .panic :=
  have noWrap : ∀ b ∈ blocks gapFile, blockEnd b < 2 ^ 32 := by decide
  ⟨noWrap, extractUF2Binary_no_panic _ noWrap⟩

set_option maxRecDepth 20000 in
/-- **A block whose end wraps past `2 ^ 32` makes `extractUF2Binary` panic**: block 0 covers
`[0x1000, 0x1010)`; block 1 starts at `0xFFFFFFF0` with 32 bytes, so its `uint32` end is `0x10`
and `maxAddr` stays `0x1010`. The buffer has 16 bytes, and block 1's slice starts at
`0xFFFFEFF0`. -/
theorem extractUF2Binary_wrapping_block_panics :
    extractUF2Binary (uf2Block 0x1000 16 [] ++ uf2Block 0xFFFFFFF0 32 []) = .panic := by
  decide

/-- **A well-formed file is extracted whole**: the buffer runs from the lowest address to the highest
end, holds each block's payload at its address, and is zero where no block reaches. -/
theorem extractUF2Binary_wellFormed (data : Bytes) (wf : WellFormedUf2 data) :
    ∃ buf, extractUF2Binary data = .output buf ∧ buf.length = maxEnd data - minStart data ∧
      (∀ b ∈ blocks data, ∀ j < payloadSize b,
        buf.getD (targetAddr b - minStart data + j) 0 = b.getD (32 + j) 0) ∧
      ∀ a < buf.length, (∀ b ∈ blocks data, ¬(targetAddr b ≤ minStart data + a ∧ minStart data + a < blockEnd b)) →
        buf.getD a 0 = 0 := by
  obtain ⟨ok, bounds, ordered, below⟩ := scanBlocks_blocks data wf.nonempty wf.aligned wf.magic wf.noWrap
  have whole : ∀ b ∈ blocks data, copiedSize b = payloadSize b := fun b mem => Nat.min_eq_left (wf.small b mem)
  have fit :
      ∀ b ∈ blocks data, Fits (minStart data) (List.replicate (maxEnd data - minStart data) (0 : UInt8)).length b :=
    fun b mem => by
      have := bounds b mem
      unfold blockEnd at this
      exact ⟨this.1, by rw [List.length_replicate, whole b mem]; omega, blocks_length data wf.aligned b mem⟩
  have short : (List.replicate (maxEnd data - minStart data) (0 : UInt8)).length < 2 ^ 32 := by
    rw [List.length_replicate]
    omega
  obtain ⟨out, run, length⟩ := copyBlocks_some _ _ _ short fit
  have apart : (blocks data).Pairwise (Apart (minStart data)) :=
    wf.disjoint.imp_of_mem fun {b c} memB memC separate => by
      have := (bounds b memB).1
      have := (bounds c memC).1
      unfold Apart
      unfold blockEnd at separate
      rw [whole b memB, whole c memC]
      omega
  obtain ⟨placed, kept⟩ := copyBlocks_content _ _ _ _ short fit apart run
  have size : u32 (maxEnd data + 2 ^ 32 - minStart data) = maxEnd data - minStart data := by
    unfold u32
    rw [show maxEnd data + 2 ^ 32 - minStart data = maxEnd data - minStart data + 2 ^ 32 by omega,
      Nat.add_mod_right, Nat.mod_eq_of_lt (by omega)]
  refine ⟨out, ?_, by rw [length, List.length_replicate], fun b mem j small => ?_, fun a inside untouched => ?_⟩
  · have large : ¬512 > data.length := by
      have := wf.nonempty
      have := wf.aligned
      omega
    unfold extractUF2Binary
    rw [if_neg large, if_neg (by rw [wf.aligned]; decide), ok]
    dsimp only
    rw [size, if_neg (by have := wf.span; omega), run]
  · exact placed b mem j (by rwa [whole b mem])
  · rw [kept a fun b mem covered => untouched b mem (by
      have := (bounds b mem).1
      unfold blockEnd
      rw [← whole b mem]
      omega)]
    simp

set_option maxRecDepth 20000 in
theorem extractUF2Binary_wellFormed_gap :
    WellFormedUf2 gapFile ∧
      ∃ buf, extractUF2Binary gapFile = .output buf ∧ buf.length = maxEnd gapFile - minStart gapFile ∧
        (∀ b ∈ blocks gapFile, ∀ j < payloadSize b,
          buf.getD (targetAddr b - minStart gapFile + j) 0 = b.getD (32 + j) 0) ∧
        ∀ a < buf.length, (∀ b ∈ blocks gapFile,
          ¬(targetAddr b ≤ minStart gapFile + a ∧ minStart gapFile + a < blockEnd b)) → buf.getD a 0 = 0 :=
  have wf : WellFormedUf2 gapFile := ⟨by decide, by decide, by decide, by decide, by decide, by decide, by decide⟩
  ⟨wf, extractUF2Binary_wellFormed _ wf⟩

end Bindicator.Cli
