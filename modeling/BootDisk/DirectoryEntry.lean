import BootDisk.Bytes
import BootDisk.LittleEndian
import BootDisk.ShortName

/-!
# Directory entries

A directory is a sequence of records of 32 bytes. The first byte of a record tells whether it was
ever used and whether it was deleted; the attribute byte tells files, directories, volume labels
and fragments of long names apart. The entries of a directory are its records in use that are
no such fragments, in the order of the records.
-/

namespace BootDisk

/-- A directory record. -/
structure DirectoryEntry where
  name : ShortName
  attributes : UInt8
  cluster : UInt16
  size : UInt32
  deriving DecidableEq

namespace DirectoryEntry

/-- The length of a record. -/
def recordLength : Nat := 32

open LittleEndian in
/-- The fields of a record. -/
def decode (raw : Vector UInt8 recordLength) : DirectoryEntry where
  name :=
    { base := #v[raw[0], raw[1], raw[2], raw[3], raw[4], raw[5], raw[6], raw[7]]
      extension := #v[raw[8], raw[9], raw[10]] }
  attributes := raw[11]
  cluster := word16 raw[26] raw[27]
  size := word32 raw[28] raw[29] raw[30] raw[31]

/-- The first byte of a record that was never used. -/
def unusedMark : UInt8 := 0x00

/-- The first byte of a deleted record. -/
def deletedMark : UInt8 := 0xE5

/-- Whether the record is in use. -/
def isInUse (entry : DirectoryEntry) : Bool :=
  entry.name.base[0] != unusedMark && entry.name.base[0] != deletedMark

/-- Whether the record holds a fragment of a long name. -/
def isNameFragment (entry : DirectoryEntry) : Bool :=
  entry.attributes == 0x0F

/-- Whether the record names a directory. -/
def isDirectory (entry : DirectoryEntry) : Bool :=
  entry.attributes &&& 0x10 != 0

/-- Whether the record carries the label of the volume. -/
def isLabel (entry : DirectoryEntry) : Bool :=
  entry.attributes &&& 0x08 != 0

/-- The consecutive records of a directory region. A rest too short for a record is left out. -/
def records (region : Bytes) : List DirectoryEntry :=
  (List.range (region.size / recordLength)).filterMap fun i =>
    (region.window? (recordLength * i) recordLength).map decode

/-- The entries of a directory region, in the order of their records. -/
def entries (region : Bytes) : List DirectoryEntry :=
  (records region).filter fun entry => entry.isInUse && !entry.isNameFragment

theorem mem_entries_iff {region : Bytes} {entry : DirectoryEntry} :
    entry ∈ entries region ↔
      entry ∈ records region ∧ entry.isInUse = true ∧ entry.isNameFragment = false := by
  simp [entries]

end DirectoryEntry

end BootDisk
