/-
**The on-demand erase, and the empty first chunk.**

Before writing a chunk the loop erases the sectors from `totalBytes / SectorSize` through
`(totalBytes + chunkLen - 1) / SectorSize` that are below `len(erasedSectors) = 512` and not yet
marked. The end is computed in `uint32`: for the first chunk of a session with `chunkLen = 0`
the `- 1` wraps, the end is `(2^32 - 1) / 4096`, and the loop passes all 512 sectors of the
bitmap, 16 more than the 496 of `otaMaxFwSize`.

* `eraseLoop_erases`: the loop erases every sector it passes that is tracked and unmarked.
* `emptyFirstChunk_erases_every_sector`: whatever follows, a session whose first frame announces
  zero bytes erases every sector `0 … 511` of the target.
* `emptyFirstChunk_erases_running_partition`: booted from B the target is A, and sector 496 of A
  is the first sector of B, the running image.
-/

import Bindicator.Ota.Session

namespace Bindicator.Ota

/-- **The erase loop erases every sector it passes that is tracked and not yet marked.** -/
theorem eraseLoop_erases (offset count first : Nat) (erased : Nat → Bool) (sector : Nat)
    (above : first ≤ sector) (within : sector < first + count)
    (tracked : sector < erasedSectorsLen) (fresh : erased sector = false) :
    Effect.erase (u32 (offset + u32 (sector * sectorSize))) ∈
      (eraseLoop offset count first erased).1 := by
  induction count generalizing first erased with
  | zero => omega
  | succ count ih =>
    rw [eraseLoop]
    split
    · by_cases here : sector = first
      · subst here
        exact List.mem_cons_self _ _
      · exact List.mem_cons_of_mem _
          (ih _ _ (by omega) (by omega) (by simp [markSector, here, fresh]))
    · rename_i passed
      have here : sector ≠ first := fun same => passed ⟨same ▸ tracked, same ▸ fresh⟩
      exact ih _ _ (by omega) (by omega) fresh

/-- **A session whose first frame announces zero bytes erases all 512 tracked sectors of the
target**, whatever the rest of the stream. -/
theorem emptyFirstChunk_erases_every_sector (current : Nat) (rest : Bytes) (polls : List Poll)
    (sector : Nat) (tracked : sector < erasedSectorsLen) :
    Effect.erase (getPartitionOffset (getTargetPartition current) + sector * sectorSize) ∈
      handleOTASession current
        ⟨ascii "OTA\n" ++ putUint32 0 ++ rest, .arrived 4 :: .arrived 4 :: polls⟩ := by
  have lineRead : readWithTimeout 128 (ascii "OTA\n" ++ putUint32 0 ++ rest)
      (.arrived 4 :: .arrived 4 :: polls) =
        ⟨ascii "OTA\n", none, ⟨putUint32 0 ++ rest, .arrived 4 :: polls⟩⟩ := by
    simpa [ascii] using readWithTimeout_first 128 4 0 (ascii "OTA\n" ++ putUint32 0 ++ rest)
      (.arrived 4 :: polls) (by simp [ascii]) (by norm_num)
  have headerRead : readExactly 4 ⟨putUint32 0 ++ rest, .arrived 4 :: polls⟩ =
      ⟨putUint32 0, none, ⟨rest, polls⟩⟩ := by
    simpa using readExactly_delivers 4 (putUint32 0 ++ rest) (.arrived 4 :: polls) polls
      (.arrive 4 4 polls polls (by norm_num) (.done polls)) (by simp)
  have step := @receiveStep_accept (Receiver.start (getTargetPartition current)) _ _ _ _ []
    headerRead (by decide) rfl (by decide) (show u32 (0 + 0) ≤ otaMaxFwSize by decide)
    (readExactly_zero _)
  have offsetBound := getPartitionOffset_le (getTargetPartition current)
  rw [handleOTASession_greeting lineRead (by decide) (by decide), receiveAll_next step]
  refine List.mem_cons_of_mem _ (List.mem_append_left _ (List.mem_append_left _ ?_))
  have address : u32 (getPartitionOffset (getTargetPartition current) + u32 (sector * sectorSize)) =
      getPartitionOffset (getTargetPartition current) + sector * sectorSize := by
    unfold u32 erasedSectorsLen sectorSize partitionBOffset at *
    rw [Nat.mod_eq_of_lt (by omega), Nat.mod_eq_of_lt (by omega)]
  rw [← address]
  have passes : endSector 0 0 + 1 - startSector 0 = 1048576 := rfl
  have first : startSector 0 = 0 := rfl
  simp only [eraseChunk, Receiver.start, List.length_nil, Nat.add_zero, passes, first]
  exact eraseLoop_erases _ _ _ _ sector (Nat.zero_le _)
    (by unfold erasedSectorsLen at tracked; omega) tracked rfl

/-- **Booted from B, an empty first chunk erases the first sector of B, the running image**:
sector 496 of the target A sits at `0x2000 + 496 · 4096 = 0x1F2000`, past A's range and
inside B's. -/
theorem emptyFirstChunk_erases_running_partition :
    Effect.erase partitionBOffset ∈
        handleOTASession partitionB ⟨ascii "OTA\n" ++ putUint32 0, [.arrived 4, .arrived 4]⟩ ∧
      ¬ partitionRegion (getTargetPartition partitionB) partitionBOffset ∧
      partitionRegion partitionB partitionBOffset := by
  have sector496 : getPartitionOffset (getTargetPartition partitionB) + 496 * sectorSize =
      partitionBOffset := rfl
  have erased := emptyFirstChunk_erases_every_sector partitionB [] [] 496 (by decide)
  rw [sector496, List.append_nil] at erased
  exact ⟨erased, by decide, by decide⟩

end Bindicator.Ota
