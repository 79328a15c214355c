import BootDisk.BootParameters
import BootDisk.DirectoryEntry

/-!
# Layout of a volume

The boot area, the allocation tables, the root directory and the data region follow one another.
Their offsets are computed in 64-bit words from the 8 and 16 bit fields of the boot parameters;
the `toNat` lemmas give each offset as a number and so show that no product or sum leaves its word.
-/

namespace BootDisk

/-- Where the regions of a volume lie, in bytes from its start. -/
structure Layout where
  clusterSize : UInt64
  tableOffset : UInt64
  rootOffset : UInt64
  rootSize : UInt64
  dataOffset : UInt64
  deriving DecidableEq

namespace BootParameters

variable (p : BootParameters)

/-- The bytes of the boot area. -/
def reservedSize : UInt64 := p.reservedSectors.toUInt64 * p.bytesPerSector.toUInt64

/-- The bytes of all copies of the allocation table. -/
def tablesSize : UInt64 :=
  p.tableCount.toUInt64 * p.sectorsPerTable.toUInt64 * p.bytesPerSector.toUInt64

/-- The layout that boot parameters describe. -/
def layout : Layout :=
  let rootSize := p.rootEntries.toUInt64 * UInt64.ofNat DirectoryEntry.recordLength
  { clusterSize := p.bytesPerSector.toUInt64 * p.sectorsPerCluster.toUInt64
    tableOffset := p.reservedSize
    rootOffset := p.reservedSize + p.tablesSize
    rootSize := rootSize
    dataOffset := p.reservedSize + p.tablesSize + rootSize }

/-- Bounds of two fields bound their product. -/
theorem mul_lt_of_lt {a b m n : Nat} (ha : a < m) (hb : b < n) : a * b < m * n :=
  Nat.mul_lt_mul_of_le_of_lt (Nat.le_of_lt ha) hb (Nat.zero_lt_of_lt ha)

theorem toNat_reservedSize :
    p.reservedSize.toNat = p.reservedSectors.toNat * p.bytesPerSector.toNat := by
  have := mul_lt_of_lt p.reservedSectors.toNat_lt p.bytesPerSector.toNat_lt
  simp only [reservedSize, UInt64.toNat_mul, UInt16.toNat_toUInt64]
  omega

theorem toNat_tablesSize :
    p.tablesSize.toNat =
      p.tableCount.toNat * p.sectorsPerTable.toNat * p.bytesPerSector.toNat := by
  have one := mul_lt_of_lt p.tableCount.toNat_lt p.sectorsPerTable.toNat_lt
  have all := mul_lt_of_lt one p.bytesPerSector.toNat_lt
  simp only [tablesSize, UInt64.toNat_mul, UInt16.toNat_toUInt64, UInt8.toNat_toUInt64]
  rw [Nat.mod_eq_of_lt (a := p.tableCount.toNat * p.sectorsPerTable.toNat) (by omega),
    Nat.mod_eq_of_lt (by omega)]

theorem toNat_clusterSize :
    p.layout.clusterSize.toNat = p.bytesPerSector.toNat * p.sectorsPerCluster.toNat := by
  have := mul_lt_of_lt p.bytesPerSector.toNat_lt p.sectorsPerCluster.toNat_lt
  simp only [layout, UInt64.toNat_mul, UInt16.toNat_toUInt64, UInt8.toNat_toUInt64]
  omega

theorem toNat_rootSize :
    p.layout.rootSize.toNat = p.rootEntries.toNat * DirectoryEntry.recordLength := by
  have := p.rootEntries.toNat_lt
  simp only [layout, DirectoryEntry.recordLength, UInt64.toNat_mul, UInt16.toNat_toUInt64,
    UInt64.toNat_ofNat']
  omega

theorem reservedSize_lt : p.reservedSize.toNat < 0x100000000 := by
  have := mul_lt_of_lt p.reservedSectors.toNat_lt p.bytesPerSector.toNat_lt
  rw [toNat_reservedSize]
  omega

theorem tablesSize_lt : p.tablesSize.toNat < 0x10000000000 := by
  have := mul_lt_of_lt (mul_lt_of_lt p.tableCount.toNat_lt p.sectorsPerTable.toNat_lt)
    p.bytesPerSector.toNat_lt
  rw [toNat_tablesSize]
  omega

theorem rootSize_lt : p.layout.rootSize.toNat < 0x200000 := by
  have := p.rootEntries.toNat_lt
  rw [toNat_rootSize, DirectoryEntry.recordLength]
  omega

/-- The root directory follows the boot area and the tables. -/
theorem toNat_rootOffset :
    p.layout.rootOffset.toNat = p.reservedSize.toNat + p.tablesSize.toNat := by
  have := p.reservedSize_lt
  have := p.tablesSize_lt
  simp only [layout, UInt64.toNat_add]
  omega

/-- The data region follows the root directory. -/
theorem toNat_dataOffset :
    p.layout.dataOffset.toNat = p.layout.rootOffset.toNat + p.layout.rootSize.toNat := by
  have := p.reservedSize_lt
  have := p.tablesSize_lt
  have := p.rootSize_lt
  rw [toNat_rootOffset]
  show (p.reservedSize + p.tablesSize + p.layout.rootSize).toNat = _
  simp only [UInt64.toNat_add]
  omega

theorem dataOffset_lt : p.layout.dataOffset.toNat < 0x20000000000 := by
  have := p.reservedSize_lt
  have := p.tablesSize_lt
  have := p.rootSize_lt
  rw [toNat_dataOffset, toNat_rootOffset]
  omega

theorem clusterSize_lt : p.layout.clusterSize.toNat < 0x1000000 := by
  have := mul_lt_of_lt p.bytesPerSector.toNat_lt p.sectorsPerCluster.toNat_lt
  rw [toNat_clusterSize]
  omega

end BootParameters

end BootDisk
