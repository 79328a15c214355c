import BootDisk.Proofs.Chain
import BootDisk.Proofs.Directory
import BootDisk.Proofs.Patches
import BootDisk.Settings
import Mathlib.Algebra.Group.Nat.Defs

/-!
# Storing a file

A file is stored by writing its bytes to the clusters it is given, the links of these clusters to
every copy of the allocation table, and its record to the root directory. All of it is one list of
patches. In a volume that `Admits` the file they keep out of each other's way: the links stay in the
tables, the record in its place of the directory and the bytes in their clusters, so that each
region holds afterwards what was written to it and the boot sector is as it was.
-/

namespace BootDisk

/-- A file and the clusters it is to be stored in, in order. -/
structure StoredFile where
  name : ShortName
  clusters : List UInt16
  data : Bytes
  clusters_ne_nil : clusters ≠ []

namespace StoredFile

variable (file : StoredFile)

/-- The number of a cluster of the file. -/
def clusterAt (i : Nat) : Nat :=
  (file.clusters.getD i 0).toNat

/-- The table word of a cluster of the file: the next cluster, or the end of the chain. -/
def wordAt (i : Nat) : Nat :=
  if i + 1 < file.clusters.length then file.clusterAt (i + 1) else 0xFFFF

/-- The directory record of the file. -/
def entry : DirectoryEntry where
  name := file.name
  attributes := 0x20
  cluster := file.clusters.head file.clusters_ne_nil
  size := UInt32.ofNat file.data.size

variable {file}

theorem clusterAt_eq {i : Nat} (inside : i < file.clusters.length) :
    file.clusterAt i = file.clusters[i].toNat := by
  simp [clusterAt, inside]

theorem length_pos (file : StoredFile) : 0 < file.clusters.length :=
  List.length_pos_of_ne_nil file.clusters_ne_nil

theorem toNat_entry_cluster (file : StoredFile) : file.entry.cluster.toNat = file.clusterAt 0 := by
  rw [clusterAt_eq file.length_pos, entry, List.head_eq_getElem]

end StoredFile

namespace Volume

/-- The length of one copy of the allocation table. -/
def tableLength (v : Volume) : Nat :=
  v.parameters.sectorsPerTable.toNat * v.parameters.bytesPerSector.toNat

/-- How many copies of the allocation table there are. -/
def tableCount (v : Volume) : Nat :=
  v.parameters.tableCount.toNat

/-- The bytes of a file that go to one of its clusters. -/
def dataPatch (v : Volume) (file : StoredFile) (i : Nat) : Patch where
  offset := v.dataPosition (file.clusterAt i)
  bytes := file.data.extract (i * v.clusterLength) ((i + 1) * v.clusterLength)

/-- The link of one of the clusters of a file, in one copy of the table. -/
def linkPatch (v : Volume) (file : StoredFile) (i copy : Nat) : Patch where
  offset := copy * v.tableLength + v.wordPosition (file.clusterAt i)
  bytes := (LittleEndian.encode 2 (file.wordAt i)).toArray

/-- The record of a file. -/
def recordPatch (v : Volume) (r : Nat) (file : StoredFile) : Patch where
  offset := v.rootPosition + DirectoryEntry.recordLength * r
  bytes := file.entry.encode

/-- All that is written to store a file, with its record at place `r`. -/
def patches (v : Volume) (r : Nat) (file : StoredFile) : List Patch :=
  (List.range file.clusters.length).map (v.dataPatch file) ++
    ((List.range file.clusters.length).flatMap fun i =>
      (List.range v.tableCount).map (v.linkPatch file i)) ++
    [v.recordPatch r file]

/-- The image with a file stored in it. -/
def store (v : Volume) (r : Nat) (file : StoredFile) : Bytes :=
  v.image.patched (v.patches r file)

/-- A file can be stored in a volume, with its record at place `r`: the boot sector lies in front of
the tables, each cluster has its word in the tables and its bytes in the image, and no entry in
front of `r` carries the name. -/
structure Admits (v : Volume) (settings : Settings) (r : Nat) (file : StoredFile) : Prop where
  header_fits : BootParameters.headerLength ≤ v.layout.tableOffset.toNat
  signature_fits : settings.signatureOffset.toNat + 2 ≤ v.layout.tableOffset.toNat
  has_table : 1 ≤ v.tableCount
  distinct : file.clusters.Nodup
  is_cluster : ∀ c ∈ file.clusters, 2 ≤ c.toNat ∧ c.toNat ≤ 0xFFF6
  has_word : ∀ c ∈ file.clusters, 2 * c.toNat + 2 ≤ v.tableLength
  has_bytes : ∀ c ∈ file.clusters, v.dataPosition c.toNat + v.clusterLength ≤ v.image.size
  data_fits : file.data.size ≤ file.clusters.length * v.clusterLength
  size_fits : file.data.size < 2 ^ 32
  has_record : r < v.recordCount
  in_use : file.name.base[0] ≠ DirectoryEntry.unusedMark ∧
    file.name.base[0] ≠ DirectoryEntry.deletedMark
  first : ∀ i < r, (v.record i).isEntry → (v.record i).name ≠ file.name

section Regions

variable {v : Volume} {settings : Settings} {r : Nat} {file : StoredFile}

/-- The root directory is behind the copies of the table. -/
theorem rootPosition_eq (v : Volume) :
    v.rootPosition = v.layout.tableOffset.toNat + v.tableCount * v.tableLength := by
  rw [tableLength, tableCount, ← Nat.mul_assoc, ← v.parameters.toNat_tablesSize]
  exact v.parameters.toNat_rootOffset

/-- No cluster starts in front of the end of the root directory. -/
theorem root_le_dataPosition (v : Volume) (c : Nat) :
    v.rootPosition + DirectoryEntry.recordLength * v.recordCount ≤ v.dataPosition c := by
  have start : v.layout.dataOffset.toNat = v.rootPosition + v.layout.rootSize.toNat :=
    v.parameters.toNat_dataOffset
  rw [toNat_rootSize_eq] at start
  rw [dataPosition, ← start]
  exact Nat.le_add_right ..

/-- The bytes of two clusters are apart. -/
theorem eq_of_mem_both {c c' p : Nat} (valid : 2 ≤ c) (valid' : 2 ≤ c')
    (low : v.dataPosition c ≤ p) (high : p < v.dataPosition c + v.clusterLength)
    (low' : v.dataPosition c' ≤ p) (high' : p < v.dataPosition c' + v.clusterLength) : c = c' := by
  simp only [dataPosition] at low high low' high'
  have step : ∀ {a b : Nat}, a < b → (a + 1) * v.clusterLength ≤ b * v.clusterLength :=
    fun before => Nat.mul_le_mul_right _ before
  rcases Nat.lt_trichotomy (c - 2) (c' - 2) with before | same | after
  · have := step before
    rw [Nat.add_one_mul] at this
    omega
  · omega
  · have := step after
    rw [Nat.add_one_mul] at this
    omega

/-- What is known of each cluster of an admitted file. -/
theorem Admits.cluster (h : v.Admits settings r file) {i : Nat}
    (inside : i < file.clusters.length) :
    2 ≤ file.clusterAt i ∧ file.clusterAt i ≤ 0xFFF6 ∧
      2 * file.clusterAt i + 2 ≤ v.tableLength ∧
      v.dataPosition (file.clusterAt i) + v.clusterLength ≤ v.image.size := by
  have member := List.getElem_mem inside
  have isCluster := h.is_cluster _ member
  rw [StoredFile.clusterAt_eq inside]
  exact ⟨isCluster.1, isCluster.2, h.has_word _ member, h.has_bytes _ member⟩

theorem Admits.clusterAt_inj (h : v.Admits settings r file) {i j : Nat}
    (inside : i < file.clusters.length) (inside' : j < file.clusters.length)
    (same : file.clusterAt i = file.clusterAt j) : i = j := by
  rw [StoredFile.clusterAt_eq inside, StoredFile.clusterAt_eq inside'] at same
  exact (List.getElem_inj h.distinct).mp (UInt16.toNat_inj.mp same)

/-- The image reaches behind the root directory. -/
theorem Admits.root_inside (h : v.Admits settings r file) :
    v.rootPosition + DirectoryEntry.recordLength * v.recordCount ≤ v.image.size := by
  have bytes := (h.cluster file.length_pos).2.2.2
  have := v.root_le_dataPosition (file.clusterAt 0)
  omega

/-- What writes at a position of a stored image: the bytes of a cluster, a link in a table, or the
record, each in its own region. -/
theorem Admits.covers_cases (h : v.Admits settings r file) {patch : Patch} {p : Nat}
    (member : patch ∈ v.patches r file) (covers : patch.Covers p) :
    (∃ i < file.clusters.length, patch = v.dataPatch file i ∧
      v.dataPosition (file.clusterAt i) ≤ p ∧
      p < v.dataPosition (file.clusterAt i) + v.clusterLength) ∨
    (∃ i < file.clusters.length, ∃ copy, patch = v.linkPatch file i copy ∧
      copy * v.tableLength + v.wordPosition (file.clusterAt i) ≤ p ∧
      p < copy * v.tableLength + v.wordPosition (file.clusterAt i) + 2 ∧
      p < v.rootPosition) ∨
    (patch = v.recordPatch r file ∧
      v.rootPosition + DirectoryEntry.recordLength * r ≤ p ∧
      p < v.rootPosition + DirectoryEntry.recordLength * (r + 1)) := by
  obtain ⟨low, high⟩ := covers
  simp only [patches, List.mem_append, List.mem_map, List.mem_flatMap, List.mem_range,
    List.mem_singleton] at member
  rcases member with (⟨i, inside, rfl⟩ | ⟨i, inside, copy, isCopy, rfl⟩) | rfl
  · refine .inl ⟨i, inside, rfl, low, ?_⟩
    simp only [dataPatch, Array.size_extract, Nat.add_one_mul] at high
    omega
  · refine .inr (.inl ⟨i, inside, copy, rfl, low, ?_⟩)
    have word := (h.cluster inside).2.2.1
    have last : (copy + 1) * v.tableLength ≤ v.tableCount * v.tableLength :=
      Nat.mul_le_mul_right _ isCopy
    simp only [linkPatch, wordPosition, List.size_toArray, LittleEndian.length_encode] at high ⊢
    rw [Nat.add_one_mul] at last
    rw [rootPosition_eq]
    omega
  · refine .inr (.inr ⟨rfl, low, ?_⟩)
    simp only [recordPatch, DirectoryEntry.size_encode] at high
    rw [Nat.mul_succ]
    omega

end Regions

section Stored

variable {v : Volume} {settings : Settings} {r : Nat} {file : StoredFile}

@[simp]
theorem size_store (v : Volume) (r : Nat) (file : StoredFile) :
    (v.store r file).size = v.image.size :=
  Bytes.size_patched ..

/-- Nothing is written in front of the tables. -/
theorem Admits.getElem?_store_of_lt (h : v.Admits settings r file) {p : Nat}
    (front : p < v.layout.tableOffset.toNat) : (v.store r file)[p]? = v.image[p]? := by
  have root := v.rootPosition_eq
  apply Bytes.getElem?_patched_of_not_covers
  intro patch member covers
  rcases h.covers_cases member covers with
    ⟨i, -, -, low, -⟩ | ⟨i, -, copy, -, low, -⟩ | ⟨-, low, -⟩
  · have := v.root_le_dataPosition (file.clusterAt i)
    omega
  · rw [wordPosition] at low
    omega
  · omega

/-- The first copy of the table links the clusters of the file. -/
theorem Admits.getElem?_store_word (h : v.Admits settings r file) {i q : Nat}
    (inside : i < file.clusters.length) (within : q < 2) :
    (v.store r file)[v.wordPosition (file.clusterAt i) + q]? =
      (LittleEndian.encode 2 (file.wordAt i))[q]? := by
  have root := v.rootPosition_eq
  obtain ⟨-, -, word, -⟩ := h.cluster inside
  have tables : v.tableLength ≤ v.tableCount * v.tableLength :=
    Nat.le_mul_of_pos_left _ h.has_table
  have behind := h.root_inside
  have position : v.wordPosition (file.clusterAt i) =
    v.layout.tableOffset.toNat + 2 * file.clusterAt i := rfl
  apply Bytes.getElem?_patched_of_covers (by omega)
  · refine ⟨v.linkPatch file i 0, ?_, ?_⟩
    · simp only [patches, List.mem_append, List.mem_map, List.mem_flatMap, List.mem_range]
      exact .inl (.inr ⟨i, inside, 0, h.has_table, rfl⟩)
    · simp only [Patch.Covers, linkPatch, List.size_toArray, LittleEndian.length_encode]
      omega
  · intro patch member covers
    rcases h.covers_cases member covers with
      ⟨j, -, -, low, -⟩ | ⟨j, inside', copy, rfl, low, high, -⟩ | ⟨-, low, -⟩
    · have := v.root_le_dataPosition (file.clusterAt j)
      omega
    · have first : copy = 0 := by
        by_contra later
        have := Nat.le_mul_of_pos_left v.tableLength (Nat.pos_of_ne_zero later)
        rw [wordPosition] at low
        omega
      subst first
      have position' : v.wordPosition (file.clusterAt j) =
        v.layout.tableOffset.toNat + 2 * file.clusterAt j := rfl
      obtain rfl := h.clusterAt_inj inside' inside (by omega)
      simp [Patch.byteAt?, linkPatch]
    · omega

/-- Each cluster of the file holds the bytes it was given. -/
theorem Admits.getElem?_store_data (h : v.Admits settings r file) {i q : Nat}
    (inside : i < file.clusters.length) (within : q < v.clusterLength)
    (present : i * v.clusterLength + q < file.data.size) :
    (v.store r file)[v.dataPosition (file.clusterAt i) + q]? =
      file.data[i * v.clusterLength + q]? := by
  obtain ⟨valid, -, -, bytes⟩ := h.cluster inside
  have behind := v.root_le_dataPosition (file.clusterAt i)
  have record : DirectoryEntry.recordLength * (r + 1) ≤
      DirectoryEntry.recordLength * v.recordCount := Nat.mul_le_mul_left _ h.has_record
  have byte : (v.dataPatch file i).byteAt? (v.dataPosition (file.clusterAt i) + q) =
      file.data[i * v.clusterLength + q]? := by
    simp only [Patch.byteAt?, dataPatch, Nat.add_sub_cancel_left, Array.getElem?_extract]
    rw [if_pos (by rw [Nat.add_one_mul]; omega)]
  apply Bytes.getElem?_patched_of_covers (by omega)
  · refine ⟨v.dataPatch file i, ?_, ?_⟩
    · simp only [patches, List.mem_append, List.mem_map, List.mem_range]
      exact .inl (.inl ⟨i, inside, rfl⟩)
    · simp only [Patch.Covers, dataPatch, Array.size_extract, Nat.add_one_mul]
      omega
  · intro patch member covers
    rcases h.covers_cases member covers with
      ⟨j, inside', rfl, low, high⟩ | ⟨j, -, copy, -, -, -, high⟩ | ⟨-, -, high⟩
    · have same := eq_of_mem_both (h.cluster inside').1 valid low high (Nat.le_add_right ..) (by omega)
      obtain rfl := h.clusterAt_inj inside' inside same
      exact byte
    · omega
    · omega

/-- The record of the file is in its place. -/
theorem Admits.getElem?_store_record (h : v.Admits settings r file) {q : Nat}
    (within : q < DirectoryEntry.recordLength) :
    (v.store r file)[v.rootPosition + DirectoryEntry.recordLength * r + q]? =
      file.entry.encode[q]? := by
  have record : DirectoryEntry.recordLength * (r + 1) ≤
      DirectoryEntry.recordLength * v.recordCount := Nat.mul_le_mul_left _ h.has_record
  rw [Nat.mul_succ] at record
  have behind := h.root_inside
  apply Bytes.getElem?_patched_of_covers (by omega)
  · refine ⟨v.recordPatch r file, ?_, ?_⟩
    · exact List.mem_append_right _ (List.mem_singleton_self _)
    · simp only [Patch.Covers, recordPatch, DirectoryEntry.size_encode]
      omega
  · intro patch member covers
    rcases h.covers_cases member covers with
      ⟨j, -, -, low, -⟩ | ⟨j, -, copy, -, -, -, high⟩ | ⟨rfl, -, -⟩
    · have := v.root_le_dataPosition (file.clusterAt j)
      omega
    · omega
    · simp [Patch.byteAt?, recordPatch]

/-- The other records are left as they were. -/
theorem Admits.getElem?_store_other (h : v.Admits settings r file) {j q : Nat}
    (inside : j < v.recordCount) (other : j ≠ r) (within : q < DirectoryEntry.recordLength) :
    (v.store r file)[v.rootPosition + DirectoryEntry.recordLength * j + q]? =
      v.image[v.rootPosition + DirectoryEntry.recordLength * j + q]? := by
  have record : DirectoryEntry.recordLength * (j + 1) ≤
      DirectoryEntry.recordLength * v.recordCount := Nat.mul_le_mul_left _ inside
  apply Bytes.getElem?_patched_of_not_covers
  intro patch member covers
  rw [Nat.mul_succ] at record
  rcases h.covers_cases member covers with
    ⟨i, -, -, low, -⟩ | ⟨i, -, copy, -, -, -, high⟩ | ⟨-, low, high⟩
  · have := v.root_le_dataPosition (file.clusterAt i)
    omega
  · omega
  · simp only [DirectoryEntry.recordLength] at *
    omega

end Stored

end Volume

end BootDisk
