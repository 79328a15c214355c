import BootDisk.Loader
import BootDisk.Settings

/-!
# Locating the partition

A partition is the part of a disk from some offset to the end of the disk. The offset is either
given, or it is the first sector that the partition table of the master boot record lists for its
first partition; sector zero means that there is no such partition.
-/

namespace BootDisk

/-- A part of a disk that reaches to the end of the disk. -/
structure Partition where
  /-- Where the part starts on the disk. -/
  start : UInt64
  /-- The bytes of the part. -/
  image : Bytes
  deriving DecidableEq

namespace Partition

/-- Where the partition table starts in the master boot record. -/
def tableOffset : Nat := 0x1BE

/-- Where the first partition's first sector is recorded. -/
def sectorOffset : Nat := tableOffset + 8

/-- The length of the sectors that the partition table counts. -/
def sectorLength : UInt64 := 512

/-- The partition that starts at a byte offset. An empty one may start at the end of the disk. -/
def startingAt (disk : Bytes) (start : UInt64) : Except Abort Partition :=
  if start.toNat ≤ disk.size then
    .ok ⟨start, disk.extract start.toNat disk.size⟩
  else
    .error (.outOfBounds start.toNat 0)

/-- The first sector of the first partition in the partition table. -/
def firstSector (disk : Bytes) : Except Abort UInt32 :=
  match disk.window? sectorOffset 4 with
  | none => .error (.outOfBounds sectorOffset 4)
  | some raw =>
    let sector := LittleEndian.word32 raw[0] raw[1] raw[2] raw[3]
    if sector = 0 then .error .noPartition else .ok sector

/-- Finds the partition on a disk. -/
def ofDisk (disk : Bytes) : PartitionLookup → Loader Abort Partition
  | .atOffset offset => Loader.ofExcept (startingAt disk offset)
  | .bootRecord => do
    let sector ← Loader.ofExcept (firstSector disk)
    Loader.log (.partitionListed sector)
    Loader.ofExcept (startingAt disk (sector.toUInt64 * sectorLength))

end Partition

end BootDisk
