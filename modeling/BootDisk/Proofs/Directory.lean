import BootDisk.Proofs.Scan
import Mathlib.Algebra.Group.Nat.Defs
import Mathlib.Data.List.Basic

/-!
# The records of the root directory

The directory of a volume is the list of its records that count as entries, each decoded from its
own 32 bytes of the image (`directory_eq_ok`). So a search finds the first record that counts and
carries the name, and nothing outside the records matters for it.
-/

namespace BootDisk

/-- A window by its bytes. -/
theorem Bytes.window?_eq_some {b : Bytes} {offset length : Nat} (inside : offset + length ≤ b.size) :
    b.window? offset length = some (Vector.ofFn fun i => b.getD (offset + i) 0) := by
  obtain ⟨w, found⟩ := Option.isSome_iff_exists.mp (window?_isSome_iff.mpr inside)
  rw [found, Option.some.injEq]
  apply Vector.ext
  intro i within
  have byte := getElem_of_window? found within
  rw [Vector.getElem_ofFn, Array.getD_eq_getD_getElem?, byte]
  rfl

namespace DirectoryEntry

/-- The record in the bytes from a position on. -/
def recordAt (b : Bytes) (position : Nat) : DirectoryEntry :=
  decode (Vector.ofFn fun i => b.getD (position + i) 0)

/-- Whether a record is an entry: it is in use, and it is no fragment of a long name. -/
def isEntry (record : DirectoryEntry) : Bool :=
  record.isInUse && !record.isNameFragment

/-- The records of a region, by the bytes at their positions. -/
theorem records_eq (region : Bytes) :
    records region =
      (List.range (region.size / recordLength)).map fun i => recordAt region (recordLength * i) := by
  have each : ∀ i ∈ List.range (region.size / recordLength),
      (region.window? (recordLength * i) recordLength).map decode =
        some (recordAt region (recordLength * i)) := by
    intro i member
    have before := List.mem_range.mp member
    have fits : recordLength * i + recordLength ≤ region.size := by
      simp only [recordLength] at before ⊢
      omega
    rw [Bytes.window?_eq_some fits]
    rfl
  rw [records, List.filterMap_congr each]
  exact congrFun List.filterMap_eq_map _

/-- A record is decoded from its own bytes only. -/
theorem recordAt_congr {b b' : Bytes} {position position' : Nat}
    (same : ∀ i < recordLength, b'[position' + i]? = b[position + i]?) :
    recordAt b' position' = recordAt b position := by
  refine congrArg decode ?_
  apply Vector.ext
  intro i within
  rw [Vector.getElem_ofFn, Vector.getElem_ofFn, Array.getD_eq_getD_getElem?,
    Array.getD_eq_getD_getElem?, same i within]

/-- The bytes of a record. Those of its fields that nothing reads are zero. -/
def encode (entry : DirectoryEntry) : Bytes :=
  (entry.name.base.toList ++ entry.name.extension.toList ++ [entry.attributes] ++
    List.replicate 14 0 ++ LittleEndian.encode 2 entry.cluster.toNat ++
    LittleEndian.encode 4 entry.size.toNat).toArray

theorem size_encode (entry : DirectoryEntry) : entry.encode.size = recordLength := by
  simp [encode, recordLength]

/-- A record survives being written and read. -/
theorem recordAt_encode (entry : DirectoryEntry) : recordAt entry.encode 0 = entry := by
  obtain ⟨⟨⟨⟨base⟩, eight⟩, ⟨⟨extension⟩, three⟩⟩, attributes, cluster, size⟩ := entry
  match base, eight, extension, three with
  | [_, _, _, _, _, _, _, _], _, [_, _, _], _ =>
    simp only [recordAt, decode, Vector.getElem_ofFn]
    have number := LittleEndian.word16_encode cluster
    have length := LittleEndian.word32_encode size
    rw [DirectoryEntry.mk.injEq]
    exact ⟨rfl, rfl, number, length⟩

end DirectoryEntry

namespace Volume

variable {v : Volume}

/-- The start of the root directory, as a number. -/
def rootPosition (v : Volume) : Nat :=
  v.layout.rootOffset.toNat

/-- How many records the root directory has. -/
def recordCount (v : Volume) : Nat :=
  v.parameters.rootEntries.toNat

/-- The record with a given number. -/
def record (v : Volume) (i : Nat) : DirectoryEntry :=
  .recordAt v.image (v.rootPosition + DirectoryEntry.recordLength * i)

theorem toNat_rootSize_eq (v : Volume) :
    v.layout.rootSize.toNat = DirectoryEntry.recordLength * v.recordCount := by
  rw [Nat.mul_comm]
  exact v.parameters.toNat_rootSize

theorem rootPosition_lt (v : Volume) : v.rootPosition < 2 ^ 41 := by
  have behind : v.layout.dataOffset.toNat = v.rootPosition + v.layout.rootSize.toNat :=
    v.parameters.toNat_dataOffset
  have : v.layout.dataOffset.toNat < 2 ^ 41 := v.parameters.dataOffset_lt
  omega

/-- Whether all of the root directory is inside the image. -/
theorem contains_root_iff :
    v.contains v.layout.rootOffset v.layout.rootSize = true ↔
      v.rootPosition + DirectoryEntry.recordLength * v.recordCount ≤ v.image.size := by
  have start := v.rootPosition_lt
  have : v.layout.rootSize.toNat < 2 ^ 21 := v.parameters.rootSize_lt
  rw [v.contains_iff, v.toNat_rootSize_eq] at *
  simp only [rootPosition] at *
  omega

/-- The directory of a volume lists its records that are entries. -/
theorem directory_eq_ok
    (inside : v.rootPosition + DirectoryEntry.recordLength * v.recordCount ≤ v.image.size) :
    v.directory =
      .ok (((List.range v.recordCount).map v.record).filter DirectoryEntry.isEntry) := by
  have length := v.toNat_rootSize_eq
  obtain ⟨region, found⟩ := Option.isSome_iff_exists.mp (Bytes.window?_isSome_iff.mpr
    (show v.layout.rootOffset.toNat + v.layout.rootSize.toNat ≤ v.image.size by rwa [length]))
  have count : region.toArray.size / DirectoryEntry.recordLength = v.recordCount := by
    rw [region.size_toArray, length, Nat.mul_div_cancel_left _ (by decide)]
  have each : ∀ i ∈ List.range v.recordCount,
      DirectoryEntry.recordAt region.toArray (DirectoryEntry.recordLength * i) = v.record i := by
    intro i member
    have before := Nat.mul_le_mul_left DirectoryEntry.recordLength
      (Nat.succ_le_of_lt (List.mem_range.mp member))
    apply DirectoryEntry.recordAt_congr
    intro j within
    have inRegion : DirectoryEntry.recordLength * i + j < v.layout.rootSize.toNat := by
      rw [Nat.mul_succ] at before
      omega
    rw [rootPosition, Nat.add_assoc, Bytes.getElem_of_window? found inRegion]
    simp [inRegion]
  rw [directory, slice?, if_pos (contains_root_iff.mpr inside), found]
  dsimp only
  rw [DirectoryEntry.entries, DirectoryEntry.records_eq, count, List.map_congr_left each]
  rfl

/-- A search finds the first record that is an entry and carries the name. -/
theorem named?_records {name : ShortName} {r : Nat} (inside : r < v.recordCount)
    (entry : (v.record r).isEntry) (carries : (v.record r).name = name)
    (first : ∀ i < r, (v.record i).isEntry → (v.record i).name ≠ name) :
    DirectoryEntry.named? name
        (((List.range v.recordCount).map v.record).filter DirectoryEntry.isEntry) =
      some (v.record r) := by
  rw [DirectoryEntry.named?, List.find?_filter, List.find?_map,
    List.find?_range_eq_some.mpr ⟨?_, List.mem_range.mpr inside, fun i before => ?_⟩]
  · rfl
  · simp only [Function.comp_apply, entry, carries, decide_true, and_self]
  · simp only [Function.comp_apply, Bool.not_eq_true', decide_eq_false_iff_not, decide_eq_true_eq,
      not_and]
    exact first i before

theorem directory_eq_error
    (outside : v.image.size < v.rootPosition + DirectoryEntry.recordLength * v.recordCount) :
    v.directory = .error (.outOfBounds v.layout.rootOffset.toNat v.layout.rootSize.toNat) := by
  have shut : ¬ v.contains v.layout.rootOffset v.layout.rootSize = true :=
    fun inside => Nat.not_le.mpr outside (contains_root_iff.mp inside)
  rw [directory, slice?, if_neg shut]

end Volume

end BootDisk
