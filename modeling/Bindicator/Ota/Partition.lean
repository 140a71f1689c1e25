/-
**The A/B partition layout and the constants of the OTA server.**

The `ota` package is not among the Go sources; its code is listed in `docs/arp-reuse.md`, and the
definitions here are translated from that listing: `PartitionA = 0`, `PartitionB = 1`,
`SectorSize = 4096`, `ota_get_partition_offset` (A at `0x2000`, any other partition at
`0x1F2000`), `PARTITION_MAX_SIZE = 0x1F0000`, and `GetTargetPartition`, the opposite of the
boot partition. `EraseSector` and `WriteChunk` always return `nil` in that listing.

* `getTargetPartition_ne`: the target is never the boot partition.
* `partitionRegion_disjoint`: the byte ranges `[offset, offset + otaMaxFwSize)` of the two
  partitions do not meet, so nothing written inside the target's range touches the running
  image.
-/

import Bindicator.Bytes

namespace Bindicator.Ota

/-- `ota.PartitionA`. -/
def partitionA : Nat := 0

/-- `ota.PartitionB`. -/
def partitionB : Nat := 1

/-- `ota.SectorSize`: the 4 KiB erase block. -/
def sectorSize : Nat := 4096

/-- `PARTITION_A_OFFSET`: 8 KiB after the partition table. -/
def partitionAOffset : Nat := 0x2000

/-- `PARTITION_B_OFFSET`: 8 KiB + 1984 KiB. -/
def partitionBOffset : Nat := 0x1F2000

/-- `GetTargetPartition`: `PartitionB` when booted from `PartitionA`, else `PartitionA`. -/
def getTargetPartition (current : Nat) : Nat :=
  if current = partitionA then partitionB else partitionA

/-- `GetPartitionOffset` (`ota_get_partition_offset`): `A` for partition 0, `B` otherwise. -/
def getPartitionOffset (partition : Nat) : Nat :=
  if partition = 0 then partitionAOffset else partitionBOffset

/-- `otaBufSize = 4096 + 64`, the length of `otaChunk`. -/
def otaBufSize : Nat := 4096 + 64

/-- `otaMaxFwSize = 1984 * 1024`, equal to `PARTITION_MAX_SIZE`. -/
def otaMaxFwSize : Nat := 1984 * 1024

/-- The sectors tracked by `var erasedSectors [512]bool`. -/
def erasedSectorsLen : Nat := 512

/-- The flash bytes a partition owns: `[offset, offset + otaMaxFwSize)`. -/
def partitionRegion (partition : Nat) (address : Nat) : Prop :=
  getPartitionOffset partition ≤ address ∧ address < getPartitionOffset partition + otaMaxFwSize

instance (partition address : Nat) : Decidable (partitionRegion partition address) :=
  inferInstanceAs (Decidable (_ ∧ _))

theorem getPartitionOffset_le (partition : Nat) : getPartitionOffset partition ≤ partitionBOffset := by
  unfold getPartitionOffset partitionAOffset partitionBOffset
  split <;> omega

/-- A whole image, and every sector the erase bitmap tracks, lies below 2^32 past either
partition's start, so the session's 32-bit offsets never wrap. -/
theorem getPartitionOffset_fits (partition : Nat) :
    getPartitionOffset partition + otaMaxFwSize < 2 ^ 32 ∧
      getPartitionOffset partition + erasedSectorsLen * sectorSize < 2 ^ 32 := by
  have := getPartitionOffset_le partition
  unfold partitionBOffset otaMaxFwSize erasedSectorsLen sectorSize at *
  omega

/-- The target is never the boot partition. -/
theorem getTargetPartition_ne (current : Nat) :
    getTargetPartition current ≠ current := by
  unfold getTargetPartition partitionA partitionB
  split <;> omega

/-- **The two partitions' ranges are disjoint**: a byte of the target's range is no byte of the
boot partition's. -/
theorem partitionRegion_disjoint (current address : Nat)
    (inTarget : partitionRegion (getTargetPartition current) address) :
    ¬ partitionRegion current address := by
  unfold partitionRegion getPartitionOffset getTargetPartition partitionA partitionB
    partitionAOffset partitionBOffset otaMaxFwSize at *
  split at inTarget <;> split at inTarget <;> split <;> omega

end Bindicator.Ota
