import BootDisk.Proofs.Locality
import BootDisk.Proofs.Presence
import Mathlib.Tactic.IntervalCases

/-!
# The entries of the root directory, byte for byte

Which records the root directory lists and which of them a path finds, told by the bytes of the
records. A record is listed by its first byte and its attribute byte alone, so an unused record
hides none behind it (`isEntry_record`). A name is carried by the eleven bytes in front of the
attributes (`name_record_eq_iff`). The main statement puts these into the scan of the whole
directory and into the lookup of a path.
-/

namespace BootDisk

open Loader

namespace DirectoryEntry

/-- The base of a name is in the first eight bytes of its record. -/
theorem getElem_base_decode (raw : Vector UInt8 recordLength) {q : Nat} (within : q < 8)
    (inRecord : q < recordLength) : (decode raw).name.base[q] = raw[q] := by
  interval_cases q <;> rfl

/-- The extension of a name is in the three bytes behind its base. -/
theorem getElem_extension_decode (raw : Vector UInt8 recordLength) {q : Nat} (within : q < 3)
    (inRecord : 8 + q < recordLength) : (decode raw).name.extension[q] = raw[8 + q] := by
  interval_cases q <;> rfl

theorem attributes_decode (raw : Vector UInt8 recordLength) (inRecord : 11 < recordLength) :
    (decode raw).attributes = raw[11] := rfl

end DirectoryEntry

namespace Volume

/-- Where the bytes of a record start. -/
def recordPosition (v : Volume) (i : Nat) : Nat :=
  v.rootPosition + DirectoryEntry.recordLength * i

/-- Where the root directory ends. -/
def rootEnd (v : Volume) : Nat :=
  v.layout.rootOffset.toNat + v.layout.rootSize.toNat

/-- Whether the bytes of a record say that it is listed: it was used, it is not deleted, and it is
no fragment of a long name. -/
def lists (v : Volume) (i : Nat) : Bool :=
  v.image[v.recordPosition i]? != some 0x00 && v.image[v.recordPosition i]? != some 0xE5 &&
    v.image[v.recordPosition i + 11]? != some 0x0F

/-- The first eight bytes of a record and the three behind them are those of a name. -/
structure Carries (v : Volume) (i : Nat) (name : ShortName) : Prop where
  base : ∀ q (h : q < 8), v.image[v.recordPosition i + q]? = some name.base[q]
  extension : ∀ q (h : q < 3), v.image[v.recordPosition i + 8 + q]? = some name.extension[q]

variable {v : Volume} {memory : Memory} {path : String} {name : ShortName} {i : Nat}
  {entry : DirectoryEntry} {w : Workspace}

theorem rootEnd_eq (v : Volume) :
    v.rootEnd = v.rootPosition + DirectoryEntry.recordLength * v.recordCount := by
  rw [rootEnd, v.toNat_rootSize_eq]
  rfl

/-- The records lie one after the other up to the end of the root directory. -/
theorem recordPosition_le (before : i < v.recordCount) : v.recordPosition i + 32 ≤ v.rootEnd := by
  rw [v.rootEnd_eq, recordPosition, DirectoryEntry.recordLength]
  omega

/-- A byte of a record that is inside the image is a byte of the image. -/
theorem getElem?_record (inside : v.rootEnd ≤ v.image.size) (before : i < v.recordCount) {q : Nat}
    (within : q < 32) :
    v.image[v.recordPosition i + q]? = some (v.image.getD (v.recordPosition i + q) 0) := by
  have := recordPosition_le before
  have present : v.recordPosition i + q < v.image.size := by omega
  rw [Array.getD_eq_getD_getElem?, Array.getElem?_eq_getElem present]
  rfl

theorem base_record (v : Volume) (i : Nat) {q : Nat} (within : q < 8) :
    (v.record i).name.base[q] = v.image.getD (v.recordPosition i + q) 0 := by
  have inRecord : q < DirectoryEntry.recordLength := Nat.lt_trans within (by decide)
  rw [record, DirectoryEntry.recordAt, DirectoryEntry.getElem_base_decode _ within inRecord,
    Vector.getElem_ofFn]
  rfl

theorem extension_record (v : Volume) (i : Nat) {q : Nat} (within : q < 3) :
    (v.record i).name.extension[q] = v.image.getD (v.recordPosition i + 8 + q) 0 := by
  have inRecord : 8 + q < DirectoryEntry.recordLength :=
    Nat.lt_trans (Nat.add_lt_add_left within 8) (by decide)
  rw [record, DirectoryEntry.recordAt, DirectoryEntry.getElem_extension_decode _ within inRecord,
    Vector.getElem_ofFn, Nat.add_assoc (v.recordPosition i)]
  rfl

theorem attributes_record (v : Volume) (i : Nat) :
    (v.record i).attributes = v.image.getD (v.recordPosition i + 11) 0 := by
  rw [record, DirectoryEntry.recordAt, DirectoryEntry.attributes_decode _ (by decide),
    Vector.getElem_ofFn]
  rfl

/-- A record is an entry exactly if its bytes say that it is listed. -/
theorem isEntry_record (inside : v.rootEnd ≤ v.image.size) (before : i < v.recordCount) :
    (v.record i).isEntry = v.lists i := by
  have first := getElem?_record inside before (show 0 < 32 by decide)
  have attributes := getElem?_record inside before (show 11 < 32 by decide)
  have base : (v.record i).name.base[0] = v.image.getD (v.recordPosition i) 0 :=
    v.base_record i (by decide)
  rw [Nat.add_zero] at first
  rw [DirectoryEntry.isEntry, DirectoryEntry.isInUse, DirectoryEntry.isNameFragment, base,
    v.attributes_record, lists, first, attributes]
  rfl

/-- A record has a name exactly if its bytes are those of the name. -/
theorem name_record_eq_iff (inside : v.rootEnd ≤ v.image.size) (before : i < v.recordCount) :
    (v.record i).name = name ↔ v.Carries i name := by
  rw [ShortName.eq_iff]
  constructor
  · rintro ⟨base, extension⟩
    constructor
    · intro q within
      rw [getElem?_record inside before (by omega), ← v.base_record i within, Option.some.injEq]
      exact congrArg (·[q]) base
    · intro q within
      rw [Nat.add_assoc, getElem?_record inside before (by omega), ← Nat.add_assoc,
        ← v.extension_record i within, Option.some.injEq]
      exact congrArg (·[q]) extension
  · intro carries
    constructor
    · apply Vector.ext
      intro q within
      rw [v.base_record i within, Array.getD_eq_getD_getElem?, carries.base q within]
      rfl
    · apply Vector.ext
      intro q within
      rw [v.extension_record i within, Array.getD_eq_getD_getElem?, carries.extension q within]
      rfl

/-- The directory lists the records that its bytes say are listed, in their order. -/
theorem directory_eq_lists (inside : v.rootEnd ≤ v.image.size) :
    v.directory = .ok (((List.range v.recordCount).filter v.lists).map v.record) := by
  have listed : ∀ i ∈ List.range v.recordCount,
      (DirectoryEntry.isEntry ∘ v.record) i = v.lists i := by
    intro i member
    rw [Function.comp_apply]
    exact isEntry_record inside (List.mem_range.mp member)
  rw [v.rootEnd_eq] at inside
  rw [directory_eq_ok inside, List.filter_map, List.filter_congr listed]

theorem directory_of_outside (outside : v.image.size < v.rootEnd) :
    v.directory = .error (.outOfBounds v.layout.rootOffset.toNat v.layout.rootSize.toNat) :=
  directory_eq_error (by rwa [v.rootEnd_eq] at outside)

/-- The first listed record that carries a name. -/
theorem named?_lists_eq_some_iff (inside : v.rootEnd ≤ v.image.size) :
    DirectoryEntry.named? name (((List.range v.recordCount).filter v.lists).map v.record) =
        some entry ↔
      ∃ i < v.recordCount, v.lists i ∧ v.Carries i name ∧
        (∀ j < i, v.lists j → ¬ v.Carries j name) ∧ v.record i = entry := by
  -- To search the listed records is to search their numbers.
  rw [DirectoryEntry.named?, List.find?_map, List.find?_filter, Option.map_eq_some_iff]
  constructor
  · rintro ⟨i, found, rfl⟩
    obtain ⟨here, member, earlier⟩ := List.find?_range_eq_some.mp found
    have before := List.mem_range.mp member
    simp only [Function.comp_apply, decide_eq_true_eq, Bool.not_eq_true', decide_eq_false_iff_not,
      not_and] at here earlier
    refine ⟨i, before, here.1, (name_record_eq_iff inside before).mp here.2, ?_, rfl⟩
    intro j sooner listed carries
    exact earlier j sooner listed
      ((name_record_eq_iff inside (Nat.lt_trans sooner before)).mpr carries)
  · rintro ⟨i, before, listed, carries, earlier, rfl⟩
    refine ⟨i, List.find?_range_eq_some.mpr ⟨?_, List.mem_range.mpr before, ?_⟩, rfl⟩
    · simp only [Function.comp_apply, decide_eq_true_eq]
      exact ⟨listed, (name_record_eq_iff inside before).mpr carries⟩
    · intro j sooner
      simp only [Function.comp_apply, Bool.not_eq_true', decide_eq_false_iff_not, decide_eq_true_eq,
        not_and]
      intro listed' same
      exact earlier j sooner listed'
        ((name_record_eq_iff inside (Nat.lt_trans sooner before)).mp same)

/-- No listed record carries a name. -/
theorem named?_lists_eq_none_iff (inside : v.rootEnd ≤ v.image.size) :
    DirectoryEntry.named? name (((List.range v.recordCount).filter v.lists).map v.record) = none ↔
      ∀ i < v.recordCount, v.lists i → ¬ v.Carries i name := by
  rw [DirectoryEntry.named?, List.find?_eq_none]
  constructor
  · intro absent i before listed carries
    refine absent (v.record i) (List.mem_map.mpr ⟨i, ?_, rfl⟩) ?_
    · exact List.mem_filter.mpr ⟨List.mem_range.mpr before, listed⟩
    · exact decide_eq_true ((name_record_eq_iff inside before).mpr carries)
  · intro absent record listing same
    obtain ⟨i, member, rfl⟩ := List.mem_map.mp listing
    obtain ⟨inRange, listed⟩ := List.mem_filter.mp member
    have before := List.mem_range.mp inRange
    exact absent i before listed ((name_record_eq_iff inside before).mp (of_decide_eq_true same))

/-- The directory is there if all of it is inside the image. -/
theorem exists_directory_iff : (∃ entries, v.directory = .ok entries) ↔ v.rootEnd ≤ v.image.size := by
  constructor
  · rintro ⟨entries, hasEntries⟩
    by_contra outside
    rw [directory_of_outside (Nat.lt_of_not_le outside)] at hasEntries
    cases hasEntries
  · intro inside
    exact ⟨_, directory_eq_lists inside⟩

/-- A path that is no name is found nowhere, and nothing is looked at for it. -/
theorem lookup_of_no_name (noName : ShortName.ofPath? path = none) :
    v.lookup memory path w = .ok none w := by
  rw [lookup, noName]
  rfl

theorem lookup_of_name (isName : ShortName.ofPath? path = some name) :
    v.lookup memory path w = v.findNamed memory name w := by
  rw [lookup, isName]

theorem outcome_lookup_of_outside (isName : ShortName.ofPath? path = some name)
    (outside : v.image.size < v.rootEnd) :
    (v.lookup memory path).outcome w =
      .error (.failure (.outOfBounds v.layout.rootOffset.toNat v.layout.rootSize.toNat)) :=
  outcome_of_error ((lookup_of_name isName).trans
    (findNamed_of_no_directory name w (directory_of_outside outside)))

theorem outcome_lookup_of_inside (isName : ShortName.ofPath? path = some name)
    (inside : v.rootEnd ≤ v.image.size) :
    (v.lookup memory path).outcome w =
      .ok (DirectoryEntry.named? name
        (((List.range v.recordCount).filter v.lists).map v.record)) :=
  outcome_of_ok ((lookup_of_name isName).trans
    (findNamed_of_directory name w (directory_eq_lists inside)))

/-- A path denotes the first listed record that carries its name. -/
theorem resolve_eq_ok_iff (isName : ShortName.ofPath? path = some name)
    (inside : v.rootEnd ≤ v.image.size) :
    v.resolve path = .ok entry ↔
      ∃ i < v.recordCount, v.lists i ∧ v.Carries i name ∧
        (∀ j < i, v.lists j → ¬ v.Carries j name) ∧ v.record i = entry := by
  have looked : (v.lookup .strict path).outcome (.start #[]) = .ok (some entry) ↔ _ :=
    lookup_eq_some_iff
  rw [← looked, outcome_lookup_of_inside isName inside, Except.ok.injEq,
    named?_lists_eq_some_iff inside]

/-- A file is absent if its path is no name, or if the directory is there and lists no record that
carries the name. -/
theorem resolve_absent_iff :
    (∃ cause, cause.IsAbsence ∧ v.resolve path = .error cause) ↔
      ShortName.ofPath? path = none ∨
        v.rootEnd ≤ v.image.size ∧ ∃ name, ShortName.ofPath? path = some name ∧
          ∀ i < v.recordCount, v.lists i → ¬ v.Carries i name := by
  have looked : (v.lookup .strict path).outcome (.start #[]) = .ok none ↔ _ := lookup_eq_none_iff
  rw [← looked]
  cases isName : ShortName.ofPath? path with
  | none =>
    rw [outcome_of_ok (lookup_of_no_name isName)]
    exact ⟨fun _ => .inl rfl, fun _ => rfl⟩
  | some name =>
    rcases Nat.lt_or_ge v.image.size v.rootEnd with outside | inside
    · rw [outcome_lookup_of_outside isName outside]
      refine ⟨nofun, ?_⟩
      rintro (same | ⟨inside, -⟩)
      · cases same
      · exact absurd inside (Nat.not_le.mpr outside)
    · rw [outcome_lookup_of_inside isName inside, Except.ok.injEq, named?_lists_eq_none_iff inside]
      constructor
      · intro unnamed
        exact .inr ⟨inside, name, rfl, unnamed⟩
      · rintro (same | ⟨-, name', same, unnamed⟩)
        · cases same
        · cases same
          exact unnamed

/-- The sample volume with four records in its root directory: one that was never used, one that is
deleted, a fragment of a long name, and a file. The last two carry the same name. -/
def sampleWithGaps : Volume where
  image := Array.replicate 38 0 ++ Array.replicate 32 0 ++
    ({ sampleEntry with name.base := ShortName.pad 8 [0xE5] } : DirectoryEntry).encode ++
    ({ sampleEntry with attributes := 0x0F } : DirectoryEntry).encode ++ sampleEntry.encode
  parameters := ⟨2, 1, 13, 1, 4, 0, 0, 6⟩
  clusterSize_ne_zero := by decide

end Volume

end BootDisk
