import BootDisk.Proofs.Bare.Volume
import BootDisk.Proofs.Checked.Words
import BootDisk.Proofs.Directory
import BootDisk.Proofs.OpenOutcome

/-!
# A volume with checked numbers

The layout of a volume, the start of a partition, and the offsets of table words and clusters are
sums and products of fields that a disk gives. Computed with checks they are what they are without
(`layout_eq`, `onDisk_eq`, `linkOffset_eq`, `clusterOffset_eq`), whatever the fields are. The
largest fields decide how far out a volume can look: even the bytes of the last cluster, as many as
a file can have, end in front of the `horizon` (`dataPosition_add_lt`). So the end of every stretch
that is looked at has a word, and the stretch is reported as outside exactly if it is
(`reportsOutside`).
-/

namespace BootDisk.Checked

open Loader

/-- The layout that boot parameters describe. -/
def layout (p : BootParameters) : Except Overrun Layout := do
  let sector := p.bytesPerSector.toUInt64
  let ⟨reserved, _⟩ ← product p.reservedSectors.toUInt64 sector
  let ⟨tableSectors, _⟩ ← product p.tableCount.toUInt64 p.sectorsPerTable.toUInt64
  let ⟨tables, _⟩ ← product tableSectors sector
  let ⟨root, _⟩ ← product p.rootEntries.toUInt64 (UInt64.ofNat DirectoryEntry.recordLength)
  let ⟨cluster, _⟩ ← product sector p.sectorsPerCluster.toUInt64
  let ⟨rootOffset, _⟩ ← sum reserved tables
  let ⟨dataOffset, _⟩ ← sum rootOffset root
  return ⟨cluster, reserved, rootOffset, root, dataOffset⟩

/-- The sectors of all tables are a word. -/
theorem toNat_tableSectors (p : BootParameters) :
    (p.tableCount.toUInt64 * p.sectorsPerTable.toUInt64).toNat =
      p.tableCount.toUInt64.toNat * p.sectorsPerTable.toUInt64.toNat := by
  have := BootParameters.mul_lt_of_lt p.tableCount.toNat_lt p.sectorsPerTable.toNat_lt
  rw [UInt64.toNat_mul, UInt8.toNat_toUInt64, UInt16.toNat_toUInt64]
  omega

theorem layout_eq (p : BootParameters) : layout p = .ok p.layout := by
  have reserved : product p.reservedSectors.toUInt64 p.bytesPerSector.toUInt64 =
      .ok ⟨p.reservedSize, _⟩ := product_eq_ok p.toNat_reservedSize
  have tableSectors := product_eq_ok (toNat_tableSectors p)
  have tables : product (p.tableCount.toUInt64 * p.sectorsPerTable.toUInt64)
      p.bytesPerSector.toUInt64 = .ok ⟨p.tablesSize, _⟩ := product_eq_ok (by
    rw [toNat_tableSectors]
    exact p.toNat_tablesSize)
  have root : product p.rootEntries.toUInt64 (UInt64.ofNat DirectoryEntry.recordLength) =
      .ok ⟨p.layout.rootSize, _⟩ := product_eq_ok p.toNat_rootSize
  have cluster : product p.bytesPerSector.toUInt64 p.sectorsPerCluster.toUInt64 =
    .ok ⟨p.layout.clusterSize, _⟩ := product_eq_ok p.toNat_clusterSize
  have rootOffset : sum p.reservedSize p.tablesSize = .ok ⟨p.layout.rootOffset, _⟩ :=
    sum_eq_ok p.toNat_rootOffset
  have dataOffset : sum p.layout.rootOffset p.layout.rootSize = .ok ⟨p.layout.dataOffset, _⟩ :=
    sum_eq_ok p.toNat_dataOffset
  simp only [layout, reserved, tableSectors, tables, root, cluster, rootOffset, dataOffset, bind,
    Except.bind]
  rfl

/-- The partition that a lookup finds on a disk. -/
def onDisk (disk : Bytes) : PartitionLookup → Loader Reason Partition
  | .atOffset offset => (Loader.ofExcept (Partition.startingAt disk offset)).restate .abort
  | .bootRecord => do
    let sector ← (Loader.ofExcept (Partition.firstSector disk)).restate .abort
    log (.partitionListed sector)
    let ⟨start, _⟩ ← ofChecked (product sector.toUInt64 Partition.sectorLength)
    (Loader.ofExcept (Partition.startingAt disk start)).restate .abort

theorem onDisk_eq (disk : Bytes) (lookup : PartitionLookup) :
    onDisk disk lookup = (Partition.ofDisk disk lookup).restate .abort := by
  cases lookup with
  | atOffset offset => rfl
  | bootRecord =>
    have start (sector : UInt32) := product_eq_ok (a := sector.toUInt64)
      (b := Partition.sectorLength) (by
        have := sector.toNat_lt
        rw [UInt64.toNat_mul, UInt32.toNat_toUInt64, show Partition.sectorLength.toNat = 512 from rfl]
        omega)
    unfold onDisk Partition.ofDisk
    simp only [restate_bind, restate_log, start, ofChecked_ok_bind]

/-- The offset of the table word of a cluster. -/
def linkOffset (v : Volume) (c : Cluster) : Except Overrun UInt64 := do
  let ⟨distance, _⟩ ← product c.index.toUInt64 2
  let ⟨offset, _⟩ ← sum v.layout.tableOffset distance
  return offset

/-- The offset of the bytes of a cluster. -/
def clusterOffset (v : Volume) (c : Cluster) : Except Overrun UInt64 := do
  let ⟨number, _⟩ ← difference c.index.toUInt64 2
  let ⟨distance, _⟩ ← product number v.layout.clusterSize
  let ⟨offset, _⟩ ← sum v.layout.dataOffset distance
  return offset

/-- No stretch that a volume looks at ends here or behind. -/
def horizon : Nat := 2 ^ 41

/-- The bytes of a stretch of the image. -/
def view (v : Volume) (offset length : UInt64) : Loader Reason Bytes := do
  let ⟨stop, _⟩ ← ofChecked (sum offset length)
  if horizon ≤ stop.toNat then
    fail (.overrun (.farOut stop.toNat))
  else if v.image.size < stop.toNat then
    fail (.abort (.outOfBounds offset.toNat length.toNat))
  else
    return v.image.extract offset.toNat stop.toNat

variable {v : Volume} {offset length : UInt64}

theorem linkOffset_eq (v : Volume) (c : Cluster) : linkOffset v c = .ok (v.linkOffset c) := by
  have double : (c.index.toUInt64 * 2).toNat = c.index.toUInt64.toNat * (2 : UInt64).toNat := by
    have := c.index.toNat_lt
    simp only [UInt64.toNat_mul, UInt16.toNat_toUInt64, UInt64.reduceToNat]
    omega
  have whole : sum v.layout.tableOffset (c.index.toUInt64 * 2) = .ok ⟨v.linkOffset c, _⟩ :=
    sum_eq_ok (by
      rw [double, UInt16.toNat_toUInt64, Nat.mul_comm]
      exact v.toNat_linkOffset c)
  simp only [linkOffset, product_eq_ok double, whole, bind, Except.bind]
  rfl

theorem clusterOffset_eq (v : Volume) (c : Cluster) :
    clusterOffset v c = .ok (v.clusterOffset c) := by
  have low : 2 ≤ c.index.toUInt64 := by
    rw [UInt64.le_iff_toNat_le, UInt16.toNat_toUInt64]
    exact c.two_le_toNat_index
  have number : (c.index.toUInt64 - 2).toNat = c.index.toNat - 2 := by
    rw [UInt64.toNat_sub_of_le _ _ low, UInt16.toNat_toUInt64]
    rfl
  have distance : ((c.index.toUInt64 - 2) * v.layout.clusterSize).toNat =
      (c.index.toUInt64 - 2).toNat * v.layout.clusterSize.toNat := by
    have := BootParameters.mul_lt_of_lt
      (Nat.lt_of_le_of_lt (Nat.sub_le c.index.toNat 2) c.index.toNat_lt) v.parameters.clusterSize_lt
    rw [UInt64.toNat_mul, number, Nat.mod_eq_of_lt]
    exact Nat.lt_trans this (by decide)
  have whole : sum v.layout.dataOffset ((c.index.toUInt64 - 2) * v.layout.clusterSize) =
      .ok ⟨v.clusterOffset c, _⟩ :=
    sum_eq_ok (by
      rw [distance, number]
      exact v.toNat_clusterOffset c)
  have less : difference c.index.toUInt64 2 = .ok ⟨c.index.toUInt64 - 2, _⟩ := difference_eq_ok (by
    have := c.two_le_toNat_index
    rw [number, UInt16.toNat_toUInt64, show (2 : UInt64).toNat = 2 from rfl]
    omega)
  simp only [clusterOffset, less, product_eq_ok distance, whole, bind, Except.bind]
  rfl

theorem view_eq (near : offset.toNat + length.toNat < horizon) :
    view v offset length = (Loader.ofExcept (Bare.view v offset length)).restate .abort := by
  have word : offset.toNat + length.toNat < 2 ^ 64 := Nat.lt_trans near (by decide)
  have stop : (offset + length).toNat = offset.toNat + length.toNat := by
    rw [UInt64.toNat_add, Nat.mod_eq_of_lt word]
  rw [view, sum_eq_ok stop, ofChecked_ok_bind]
  simp only [stop, if_neg (Nat.not_le.mpr near)]
  by_cases outside : v.image.size < offset.toNat + length.toNat
  · rw [if_pos outside, Bare.view_of_not_contains fun inside =>
      Nat.not_le.mpr outside (v.contains_iff.mp inside).2]
    rfl
  · rw [if_neg outside, Bare.view_of_contains (v.contains_iff.mpr ⟨word, Nat.not_lt.mp outside⟩)]
    rfl

/-- As many bytes as a file can have end in front of the horizon, whichever cluster they start
at. -/
theorem dataPosition_add_lt (v : Volume) {c n : Nat} (small : c < 65536) (short : n < 2 ^ 32) :
    v.dataPosition c + n < horizon := by
  have sector : v.parameters.bytesPerSector.toNat ≤ 65535 :=
    Nat.le_of_lt_succ v.parameters.bytesPerSector.toNat_lt
  have reserved := Nat.mul_le_mul (Nat.le_of_lt_succ v.parameters.reservedSectors.toNat_lt) sector
  have tables := Nat.mul_le_mul (Nat.mul_le_mul (Nat.le_of_lt_succ v.parameters.tableCount.toNat_lt)
    (Nat.le_of_lt_succ v.parameters.sectorsPerTable.toNat_lt)) sector
  have entries := v.parameters.rootEntries.toNat_lt
  have cluster := Nat.mul_le_mul sector (Nat.le_of_lt_succ v.parameters.sectorsPerCluster.toNat_lt)
  have clusters := Nat.mul_le_mul (show c - 2 ≤ 65533 by omega) cluster
  have laidOut := laidOut_layout v.parameters
  rw [Volume.dataPosition, Volume.clusterLength, Volume.layout, laidOut.dataOffset,
    laidOut.rootOffset, laidOut.tableOffset, laidOut.rootSize, laidOut.clusterSize, horizon]
  omega

/-- The entries of the root directory, in the order of their records. -/
def directory (v : Volume) : Loader Reason (List DirectoryEntry) := do
  let region ← view v v.layout.rootOffset v.layout.rootSize
  return DirectoryEntry.entries region

/-- The root directory ends where the bytes of the first cluster start. -/
theorem root_near (v : Volume) :
    v.layout.rootOffset.toNat + v.layout.rootSize.toNat < horizon := by
  have start : v.layout.dataOffset.toNat = v.layout.rootOffset.toNat + v.layout.rootSize.toNat :=
    v.parameters.toNat_dataOffset
  have near := dataPosition_add_lt v (c := 2) (n := 0) (by decide) (by decide)
  rw [Volume.dataPosition, Nat.sub_self, Nat.zero_mul] at near
  omega

theorem directory_eq (v : Volume) : directory v = (Loader.ofExcept v.directory).restate .abort := by
  unfold directory Volume.directory
  rw [view_eq (root_near v)]
  cases found : v.slice? v.layout.rootOffset v.layout.rootSize with
  | none =>
    rw [Bare.view_of_no_slice? found]
    rfl
  | some region =>
    rw [Bare.view_of_slice? found]
    rfl

/-- The bytes of a visited cluster start where those of the cluster do. -/
theorem offset_of_visit {index : Nat} {wanted : UInt64} {visit : Visit}
    (visited : v.visit index wanted = .ok visit) :
    visit.offset = v.clusterOffset visit.cluster := by
  cases isCluster : Cluster.ofIndex index with
  | error reason =>
    rw [Volume.visit_of_no_cluster isCluster] at visited
    cases visited
  | ok cluster =>
    cases hasWord : v.tableWord cluster with
    | error reason =>
      rw [Volume.visit_of_no_word isCluster hasWord] at visited
      cases visited
    | ok word =>
      rw [Volume.visit_of_word isCluster hasWord] at visited
      cases visited
      rfl

/-- The bytes that a cluster is to supply to a file end in front of the horizon. -/
theorem supply_near {index : Nat} {wanted : UInt64} {visit : Visit} (short : wanted.toNat < 2 ^ 32)
    (visited : v.visit index wanted = .ok visit) :
    visit.offset.toNat + visit.length.toNat < horizon := by
  have le := v.supplyLength_le visit.link wanted
  rw [offset_of_visit visited, v.toNat_clusterOffset_eq, v.length_of_visit visited]
  exact dataPosition_add_lt v visit.cluster.index.toNat_lt (Nat.lt_of_le_of_lt le short)

/-- A volume looks at stretches that end in front of the horizon, and reports one as outside exactly
if its end, as a number, is behind the image: the stretch of its root directory, those of the table
words, and those of the bytes that a cluster is to supply. -/
structure ReportsOutside (v : Volume) : Prop where
  root_near : v.layout.rootOffset.toNat + v.layout.rootSize.toNat < 2 ^ 41
  root : v.directory = .error (.outOfBounds v.layout.rootOffset.toNat v.layout.rootSize.toNat) ↔
    v.image.size < v.layout.rootOffset.toNat + v.layout.rootSize.toNat
  word_near : ∀ c, (v.linkOffset c).toNat + 2 < 2 ^ 41
  word : ∀ c, v.tableWord c = .error (.outOfBounds (v.linkOffset c).toNat 2) ↔
    v.image.size < (v.linkOffset c).toNat + 2
  supply_near : ∀ index wanted visit, wanted.toNat < 2 ^ 32 → v.visit index wanted = .ok visit →
    visit.offset.toNat + visit.length.toNat < 2 ^ 41
  supply : ∀ index wanted visit, wanted.toNat < 2 ^ 32 → v.visit index wanted = .ok visit →
    visit.link ≠ .bad →
      (v.checkSupply visit = .error (.outOfBounds visit.offset.toNat visit.length.toNat) ↔
        v.image.size < visit.offset.toNat + visit.length.toNat)

theorem reportsOutside (v : Volume) : ReportsOutside v where
  root_near := root_near v
  root := by
    rw [v.toNat_rootSize_eq]
    constructor
    · intro failed
      refine Nat.lt_of_not_le fun inside => ?_
      rw [Volume.directory_eq_ok inside] at failed
      cases failed
    · intro outside
      rw [Volume.directory_eq_error outside, v.toNat_rootSize_eq]
  word_near c := by
    have := v.wordPosition_lt c.index.toNat_lt
    rw [v.toNat_linkOffset_eq]
    omega
  word c := by
    rw [v.tableWord_eq, v.toNat_linkOffset_eq]
    by_cases outside : v.image.size < v.wordPosition c.index.toNat + 2
    · exact iff_of_true (if_pos outside) outside
    · exact iff_of_false (by simp [if_neg outside]) outside
  supply_near index wanted visit short visited := supply_near short visited
  supply index wanted visit short visited notBad := by
    have fits := Nat.lt_trans (supply_near short visited) (show horizon < 2 ^ 64 by decide)
    rw [Volume.checkSupply, if_neg notBad, Volume.contains_eq fits]
    by_cases inside : visit.offset.toNat + visit.length.toNat ≤ v.image.size
    · exact iff_of_false (by simp [inside]) (Nat.not_lt.mpr inside)
    · exact iff_of_true (by simp [inside]) (Nat.lt_of_not_le inside)

end BootDisk.Checked
