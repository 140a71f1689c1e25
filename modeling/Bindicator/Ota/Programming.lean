/-
**Programming the flash: erase before write, never erase what was written.**

NOR flash takes `ota.WriteChunk` only where it has been erased, and `ota.EraseSector` wipes a
whole sector. The session knows nothing of what the target partition held before, so a byte is
`unknown` until the session erases it. `program` runs the session's erases and writes on such a
flash and fails where a write meets a byte that is not erased, which would corrupt the image, or
an erase meets a byte the session wrote, which would lose part of it.

The receive loop keeps the bitmap `erasedSectors` for this: a sector is erased the first time a
chunk reaches it and marked, and never erased again in the session.

* `Programmed`: the loop invariant tying `totalBytes` and `erasedSectors` to the flash;
* `eraseLoop_programs`: the erase loop erases only sectors that hold nothing the session wrote,
  and leaves every sector it passes below `len(erasedSectors)` marked;
* `accept_programs`: an accepted chunk is written on erased bytes only;
* `handleOTASession_programs`: **every session**, whatever the client sends and however it
  arrives, programs the flash without fault, and writes only inside the target partition.
-/

import Bindicator.Ota.Session

namespace Bindicator.Ota

/-- What a byte of flash holds, as far as the session knows. -/
inductive Cell where
  /-- Whatever was there before the session. -/
  | unknown
  | erased
  /-- Written by this session. -/
  | written
  deriving DecidableEq, Repr

/-- `ota.EraseSector(offset)`: the sector's bytes are erased; `none` if one of them holds data the
session wrote. -/
def eraseSector (flash : Nat → Cell) (offset : Nat) : Option (Nat → Cell) :=
  if ∀ i < sectorSize, flash (offset + i) ≠ .written then
    some fun a => if offset ≤ a ∧ a < offset + sectorSize then .erased else flash a
  else none

/-- `ota.WriteChunk(offset, data)`: the bytes are written; `none` if one of them is not erased. -/
def writeChunk (flash : Nat → Cell) (offset : Nat) (data : Bytes) : Option (Nat → Cell) :=
  if ∀ i < data.length, flash (offset + i) = .erased then
    some fun a => if offset ≤ a ∧ a < offset + data.length then .written else flash a
  else none

/-- The session's erases and writes on the flash, in order. -/
def program (flash : Nat → Cell) : List Effect → Option (Nat → Cell)
  | [] => some flash
  | .erase offset :: effects => (eraseSector flash offset).bind fun flash' => program flash' effects
  | .write offset data :: effects =>
    (writeChunk flash offset data).bind fun flash' => program flash' effects
  | _ :: effects => program flash effects

theorem program_append (flash : Nat → Cell) (xs ys : List Effect) :
    program flash (xs ++ ys) = (program flash xs).bind fun flash' => program flash' ys := by
  induction xs generalizing flash with
  | nil => rfl
  | cons e xs ih =>
    cases e with
    | erase offset =>
      rw [List.cons_append, program, program, Option.bind_assoc]
      exact congrArg _ (funext ih)
    | write offset data =>
      rw [List.cons_append, program, program, Option.bind_assoc]
      exact congrArg _ (funext ih)
    | reply bytes => exact ih flash
    | reboot partition => exact ih flash

/-- An ending neither erases nor writes. -/
theorem Ending.program_eq {st : Receiver} {conn : Conn} {effects : List Effect}
    (ending : Ending st conn effects) (flash : Nat → Cell) : program flash effects = some flash := by
  cases ending with
  | done =>
    unfold doneLine
    dsimp only
    split_ifs <;> rfl
  | _ => rfl

/-! ## The loop invariant -/

/-- The flash against the loop's variables, for the partition at `off`: only
`[off, off + total)` is written, the sectors of the written bytes are marked, and past the
written bytes a marked sector is erased. -/
structure Programmed (off total : Nat) (marked : Nat → Bool) (flash : Nat → Cell) : Prop where
  written : ∀ a, flash a = .written → off ≤ a ∧ a < off + total
  covered : ∀ a, off ≤ a → a < off + total → marked ((a - off) / sectorSize) = true
  ahead : ∀ a, off + total ≤ a → marked ((a - off) / sectorSize) = true → flash a = .erased

/-- Before the first chunk nothing is written and nothing marked. -/
theorem Programmed.start (off : Nat) : Programmed off 0 (fun _ => false) fun _ => .unknown :=
  ⟨fun _ written => (by cases written), fun _ _ _ => (by omega), fun _ _ marked => (by cases marked)⟩

theorem markSector_of_marked {marked : Nat → Bool} {s : Nat} (sector : Nat) (was : marked s = true) :
    markSector marked sector s = true := by
  unfold markSector
  split <;> first | rfl | exact was

/-- The erase loop only adds marks. -/
theorem eraseLoop_marked (off count sector : Nat) (marked : Nat → Bool) (s : Nat)
    (was : marked s = true) : (eraseLoop off count sector marked).2 s = true := by
  induction count generalizing sector marked with
  | zero => exact was
  | succ count ih =>
    unfold eraseLoop
    split
    · exact ih _ _ (markSector_of_marked sector was)
    · exact ih _ _ was

/-- One erase of an unmarked sector: it holds nothing the session wrote, and afterwards it is
erased and marked. -/
theorem eraseSector_programs {off total sector : Nat} {marked : Nat → Bool} {flash : Nat → Cell}
    (prog : Programmed off total marked flash) (unmarked : marked sector = false) :
    ∃ flash', eraseSector flash (off + sector * sectorSize) = some flash' ∧
      Programmed off total (markSector marked sector) flash' := by
  have inSector : ∀ a, off + sector * sectorSize ≤ a → a < off + sector * sectorSize + sectorSize →
      (a - off) / sectorSize = sector := fun a low high => by
    unfold sectorSize at *
    omega
  have clean : ∀ i < sectorSize, flash (off + sector * sectorSize + i) ≠ .written := fun i small written => by
    have holds := prog.written _ written
    have := prog.covered _ holds.1 holds.2
    rw [inSector _ (by omega) (by omega), unmarked] at this
    cases this
  refine ⟨_, if_pos clean, fun a written => ?_, fun a low high => ?_, fun a past marked' => ?_⟩
  · split at written
    · cases written
    · exact prog.written a written
  · exact markSector_of_marked sector (prog.covered a low high)
  · split
    · rfl
    · rename_i outside
      unfold markSector at marked'
      split at marked'
      · exact absurd ⟨by unfold sectorSize at *; omega, by unfold sectorSize at *; omega⟩ outside
      · exact prog.ahead a past marked'

/-- **The erase loop keeps the invariant**, erasing only sectors that hold nothing the session
wrote, and marks every sector it passes below `len(erasedSectors)`. -/
theorem eraseLoop_programs (off total count sector : Nat) (marked : Nat → Bool) (flash : Nat → Cell)
    (prog : Programmed off total marked flash)
    (offsetFits : off + erasedSectorsLen * sectorSize < 2 ^ 32) :
    ∃ flash', program flash (eraseLoop off count sector marked).1 = some flash' ∧
      Programmed off total (eraseLoop off count sector marked).2 flash' ∧
      ∀ s, sector ≤ s → s < sector + count → s < erasedSectorsLen →
        (eraseLoop off count sector marked).2 s = true := by
  induction count generalizing sector marked flash with
  | zero => exact ⟨flash, rfl, prog, fun s low high _ => by omega⟩
  | succ count ih =>
    unfold eraseLoop
    split
    · rename_i fresh
      have noWrap : u32 (off + u32 (sector * sectorSize)) = off + sector * sectorSize := by
        unfold erasedSectorsLen sectorSize at *
        rw [u32, u32, Nat.mod_eq_of_lt (by omega), Nat.mod_eq_of_lt (by omega)]
      obtain ⟨flash1, erased, prog1⟩ := eraseSector_programs prog fresh.2
      obtain ⟨flash', run, prog', cover⟩ := ih (sector + 1) _ flash1 prog1
      refine ⟨flash', by rw [program, noWrap, erased]; exact run, prog', fun s low high small => ?_⟩
      rcases Nat.eq_or_lt_of_le low with rfl | later
      · exact eraseLoop_marked _ _ _ _ _ (by simp [markSector])
      · exact cover s later (by omega) small
    · rename_i done
      obtain ⟨flash', run, prog', cover⟩ := ih (sector + 1) marked flash prog
      refine ⟨flash', run, prog', fun s low high small => ?_⟩
      rcases Nat.eq_or_lt_of_le low with rfl | later
      · exact eraseLoop_marked _ _ _ _ _ (by simpa [small] using done)
      · exact cover s later (by omega) small

/-! ## One chunk, the loop, the session -/

/-- **An accepted chunk is written on erased bytes only**, and the invariant holds of the
variables after it. -/
theorem accept_programs (st : Receiver) (payload : Bytes) (flash : Nat → Cell)
    (prog : Programmed st.partitionOffset st.totalBytes st.erasedSectors flash)
    (small : payload.length ≤ otaBufSize) (fits : u32 (st.totalBytes + payload.length) ≤ otaMaxFwSize)
    (bounded : st.totalBytes ≤ otaMaxFwSize)
    (offsetFits : st.partitionOffset + erasedSectorsLen * sectorSize < 2 ^ 32) :
    ∃ flash', program flash ((eraseChunk st payload.length).1 ++
        [.write (u32 (st.partitionOffset + st.totalBytes)) payload,
          ackReply (u32 (st.totalBytes + payload.length))]) = some flash' ∧
      Programmed (st.accept (eraseChunk st payload.length).2 payload).partitionOffset
        (st.accept (eraseChunk st payload.length).2 payload).totalBytes
        (st.accept (eraseChunk st payload.length).2 payload).erasedSectors flash' := by
  obtain ⟨flash1, erased, prog1, cover⟩ := eraseLoop_programs st.partitionOffset st.totalBytes
    (endSector st.totalBytes payload.length + 1 - startSector st.totalBytes)
    (startSector st.totalBytes) st.erasedSectors flash prog offsetFits
  have noWrap : u32 (st.totalBytes + payload.length) = st.totalBytes + payload.length :=
    Nat.mod_eq_of_lt (by unfold otaMaxFwSize otaBufSize at *; omega)
  have writeAt : u32 (st.partitionOffset + st.totalBytes) = st.partitionOffset + st.totalBytes :=
    Nat.mod_eq_of_lt (by unfold otaMaxFwSize erasedSectorsLen sectorSize at *; omega)
  have lastSector : payload.length ≠ 0 →
      endSector st.totalBytes payload.length = (st.totalBytes + payload.length - 1) / sectorSize := by
    intro nonempty
    unfold endSector u32
    rw [show st.totalBytes + payload.length + (2 ^ 32 - 1) = st.totalBytes + payload.length - 1 + 2 ^ 32
      by omega, Nat.add_mod_right, Nat.mod_eq_of_lt (by unfold otaMaxFwSize otaBufSize at *; omega)]
  -- every byte of the chunk lies in a sector the loop passed, below the bitmap's end
  have chunkMarked : ∀ a, st.partitionOffset + st.totalBytes ≤ a →
      a < st.partitionOffset + st.totalBytes + payload.length →
      (eraseChunk st payload.length).2 ((a - st.partitionOffset) / sectorSize) = true := by
    intro a low high
    have last := lastSector (by omega)
    rw [noWrap] at fits
    exact cover _ (by unfold startSector; exact Nat.div_le_div_right (by omega))
      (by rw [last]; unfold startSector sectorSize at *; omega)
      (by unfold erasedSectorsLen sectorSize otaMaxFwSize at *; omega)
  have onErased : ∀ i < payload.length, flash1 (st.partitionOffset + st.totalBytes + i) = .erased :=
    fun i inChunk => prog1.ahead _ (by omega) (chunkMarked _ (by omega) (by omega))
  refine ⟨fun a => if st.partitionOffset + st.totalBytes ≤ a ∧
      a < st.partitionOffset + st.totalBytes + payload.length then .written else flash1 a,
    ?_, fun a written => ?_, fun a low high => ?_, fun a past marked => ?_⟩
  · rw [program_append, eraseChunk, erased, Option.some_bind, writeAt, program,
      writeChunk, if_pos onErased]
    rfl
  · simp only [Receiver.accept, noWrap] at written ⊢
    split at written
    · omega
    · have := prog1.written a written
      omega
  · simp only [Receiver.accept, noWrap] at high ⊢
    by_cases before : a < st.partitionOffset + st.totalBytes
    · exact prog1.covered a low before
    · exact chunkMarked a (by omega) (by omega)
  · simp only [Receiver.accept, noWrap] at past marked ⊢
    rw [if_neg (by omega)]
    exact prog1.ahead a (by omega) marked

/-- **The receive loop programs the flash without fault**, from variables the invariant holds
of, and writes only inside `[partitionOffset, partitionOffset + otaMaxFwSize)`. -/
theorem receive_programs (fuel : Nat) (st : Receiver) (conn : Conn) (flash : Nat → Cell)
    (prog : Programmed st.partitionOffset st.totalBytes st.erasedSectors flash)
    (bounded : st.totalBytes ≤ otaMaxFwSize)
    (offsetFits : st.partitionOffset + erasedSectorsLen * sectorSize < 2 ^ 32) :
    ∃ flash', program flash (receive fuel st conn) = some flash' ∧
      ∀ a, flash' a = .written → st.partitionOffset ≤ a ∧ a < st.partitionOffset + otaMaxFwSize := by
  induction fuel generalizing st conn flash with
  | zero => exact ⟨flash, rfl, fun a written => by have := prog.written a written; omega⟩
  | succ fuel ih =>
    rw [receive_succ_eq]
    split
    · rename_i effects step
      exact ⟨flash, (receiveStep_stop step).program_eq flash,
        fun a written => by have := prog.written a written; omega⟩
    · rename_i effects st1 conn1 step
      obtain ⟨header, payload, -, -, -, -, small, fits, -, rfl, rfl, -⟩ := receiveStep_next step
      obtain ⟨flash1, run1, prog1⟩ := accept_programs st payload flash prog small fits bounded offsetFits
      obtain ⟨flash', run', inside⟩ := ih _ conn1 flash1 prog1 fits offsetFits
      exact ⟨flash', by rw [program_append, run1, Option.some_bind]; exact run', inside⟩

/-- **Every session programs the flash without fault**: whatever the client sends and however
it arrives, `handleOTASession` writes only bytes it erased before, never erases a byte it
wrote, and writes only inside the target partition's `[offset, offset + otaMaxFwSize)`. -/
theorem handleOTASession_programs (current : Nat) (conn : Conn) :
    ∃ flash, program (fun _ => .unknown) (handleOTASession current conn) = some flash ∧
      ∀ a, flash a = .written → getPartitionOffset (getTargetPartition current) ≤ a ∧
        a < getPartitionOffset (getTargetPartition current) + otaMaxFwSize := by
  unfold handleOTASession
  dsimp only
  split_ifs
  · exact ⟨_, rfl, fun _ written => by cases written⟩
  · exact ⟨_, rfl, fun _ written => by cases written⟩
  · exact receive_programs _ (Receiver.start (getTargetPartition current)) _ _
      (Programmed.start _) (Nat.zero_le _) (getPartitionOffset_fits (getTargetPartition current)).2

end Bindicator.Ota
