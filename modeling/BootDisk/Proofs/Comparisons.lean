import BootDisk.Proofs.Entries

/-!
# How often names are compared

A lookup looks at the entries of the root directory up to the first that carries the name
(`lookedAt`). It compares the base of each of them with that of the name and, where these are the
same, the extension too. The scan is run here once more with every comparison on record
(`recordedScan`). The record changes nothing else, and it shows which fields are compared: those of
the entries that are looked at, and of no other record.
-/

namespace BootDisk

open Loader

namespace DirectoryEntry

/-- The entries that a scan for a name looks at: those up to the first that carries it, or all of
them if none does. -/
def lookedAt (name : ShortName) (entries : List DirectoryEntry) : List DirectoryEntry :=
  entries.take (entries.findIdx (fun entry => entry.name = name) + 1)

/-- The pairs of fields that a scan for a name compares at an entry. -/
def comparedAt (name : ShortName) (entry : DirectoryEntry) : List (Bytes × Bytes) :=
  if entry.name.base = name.base then
    [(entry.name.base.toArray, name.base.toArray),
      (entry.name.extension.toArray, name.extension.toArray)]
  else
    [(entry.name.base.toArray, name.base.toArray)]

variable {name : ShortName} {entry : DirectoryEntry}

theorem lookedAt_cons_of_eq (rest : List DirectoryEntry) (same : entry.name = name) :
    lookedAt name (entry :: rest) = [entry] := by
  simp [lookedAt, List.findIdx_cons, same]

theorem lookedAt_cons_of_ne (rest : List DirectoryEntry) (other : entry.name ≠ name) :
    lookedAt name (entry :: rest) = entry :: lookedAt name rest := by
  simp [lookedAt, List.findIdx_cons, other]

theorem mem_of_mem_lookedAt {entries : List DirectoryEntry} (member : entry ∈ lookedAt name entries) :
    entry ∈ entries :=
  List.mem_of_mem_take member

theorem mem_comparedAt {stretches : Bytes × Bytes} (member : stretches ∈ comparedAt name entry) :
    stretches = (entry.name.base.toArray, name.base.toArray) ∨
      entry.name.base = name.base ∧
        stretches = (entry.name.extension.toArray, name.extension.toArray) := by
  unfold comparedAt at member
  split at member
  · rename_i sameBase
    rcases List.mem_pair.mp member with base | extension
    · exact .inl base
    · exact .inr ⟨sameBase, extension⟩
  · exact .inl (List.mem_singleton.mp member)

theorem length_comparedAt (name : ShortName) (entry : DirectoryEntry) :
    (comparedAt name entry).length = 1 + if entry.name.base = name.base then 1 else 0 := by
  unfold comparedAt
  split <;> rfl

theorem comparisonsFor_cons_of_eq (rest : List DirectoryEntry) (same : entry.name = name) :
    comparisonsFor name (entry :: rest) = (comparedAt name entry).length := by
  obtain ⟨sameBase, sameExtension⟩ := ShortName.eq_iff.mp same
  rw [comparisonsFor, length_comparedAt, if_pos sameBase, if_pos sameExtension, if_pos sameBase]

theorem comparisonsFor_cons_of_ne (rest : List DirectoryEntry) (other : entry.name ≠ name) :
    comparisonsFor name (entry :: rest) =
      (comparedAt name entry).length + comparisonsFor name rest := by
  rw [comparisonsFor, length_comparedAt]
  by_cases sameBase : entry.name.base = name.base
  · have otherExtension : entry.name.extension ≠ name.extension :=
      fun sameExtension => other (ShortName.eq_iff.mpr ⟨sameBase, sameExtension⟩)
    rw [if_pos sameBase, if_neg otherExtension, if_pos sameBase, Nat.add_assoc]
  · rw [if_neg sameBase, if_neg sameBase]

theorem comparisonsFor_eq_length (name : ShortName) (entries : List DirectoryEntry) :
    comparisonsFor name entries = ((lookedAt name entries).flatMap (comparedAt name)).length := by
  induction entries with
  | nil => rfl
  | cons entry rest ih =>
    by_cases same : entry.name = name
    · rw [comparisonsFor_cons_of_eq rest same, lookedAt_cons_of_eq rest same, List.flatMap_singleton]
    · rw [comparisonsFor_cons_of_ne rest same, lookedAt_cons_of_ne rest same, List.flatMap_cons,
        List.length_append, ih]

/-- One comparison for each entry, and one more for each of them that has the same base. -/
theorem length_flatMap_comparedAt (name : ShortName) (entries : List DirectoryEntry) :
    (entries.flatMap (comparedAt name)).length =
      entries.length + entries.countP fun entry => entry.name.base = name.base := by
  induction entries with
  | nil => rfl
  | cons entry rest ih =>
    rw [List.flatMap_cons, List.length_append, length_comparedAt, ih, List.length_cons,
      List.countP_cons]
    simp only [decide_eq_true_eq]
    omega

theorem comparisonsFor_eq (name : ShortName) (entries : List DirectoryEntry) :
    comparisonsFor name entries = (lookedAt name entries).length +
      (lookedAt name entries).countP fun entry => entry.name.base = name.base :=
  (comparisonsFor_eq_length name entries).trans (length_flatMap_comparedAt name _)

end DirectoryEntry

/-! Scans with their comparisons on record. -/

/-- A loading step that keeps a record of the stretches it compares, the oldest first. -/
abbrev Recorder (ε α : Type) := StateT (List (Bytes × Bytes)) (Loader ε) α

namespace Recorder

variable {ε α β : Type} {record record' : List (Bytes × Bytes)} {w w' : Workspace}

/-- Compares two stretches with the memory's primitive, and puts that on record. -/
def equal (memory : Memory) (a b : Bytes) : Recorder ε Bool := fun record => do
  let same ← Loader.equal memory a b
  return (same, record ++ [(a, b)])

/-- Adds an event to the log. -/
def log (event : Event) : Recorder ε Unit := fun record => do
  Loader.log event
  return ((), record)

/-- A step behind one that succeeds starts from the record and the workspace that are left. -/
theorem bind_ok {step : Recorder ε α} {next : α → Recorder ε β} {a : α}
    (h : step record w = .ok (a, record') w') : (step >>= next) record w = next a record' w' :=
  Loader.bind_ok h

theorem equal_eq {width : Nat} (memory : Memory) (a b : Vector UInt8 width) :
    (equal memory a.toArray b.toArray : Recorder ε Bool) record w =
      .ok (decide (a = b), record ++ [(a.toArray, b.toArray)])
        { w with comparisons := w.comparisons + 1 } :=
  Loader.bind_ok (Loader.equal_eq memory a b w)

theorem log_eq (event : Event) :
    (log event : Recorder ε Unit) record w =
      .ok ((), record) { w with log := w.log.push event } :=
  Loader.bind_ok (Loader.log_eq event w)

end Recorder

namespace Volume

/-- The scan of some entries for a name, whatever compares their fields and whatever is told of the
entry that is found. -/
def scan {m : Type → Type} [Monad m] (equal : Bytes → Bytes → m Bool)
    (tell : DirectoryEntry → m Unit) (name : ShortName) :
    List DirectoryEntry → m (Option DirectoryEntry)
  | [] => return none
  | entry :: rest => do
    if ← equal entry.name.base.toArray name.base.toArray then
      if ← equal entry.name.extension.toArray name.extension.toArray then
        tell entry
        return some entry
    scan equal tell name rest

/-- The scan with its comparisons on record. -/
def recordedScan {ε : Type} (memory : Memory) (name : ShortName) (entries : List DirectoryEntry) :
    Recorder ε (Option DirectoryEntry) :=
  scan (Recorder.equal memory) (fun entry => Recorder.log (.entryFound entry)) name entries

variable {v : Volume} {memory : Memory} {path : String} {name : ShortName} {w : Workspace}
  {entry : DirectoryEntry}

/-- The scan of the directory is this scan, with the comparisons of the memory. -/
theorem firstNamed_eq_scan {ε : Type} (memory : Memory) (name : ShortName)
    (entries : List DirectoryEntry) :
    (firstNamed memory name entries : Loader ε (Option DirectoryEntry)) =
      scan (Loader.equal memory) (fun entry => Loader.log (.entryFound entry)) name entries := by
  induction entries with
  | nil => rfl
  | cons entry rest ih => rw [firstNamed, scan, ih]

/-- The scan ends at an entry that carries the name. -/
theorem recordedScan_cons_of_eq {ε : Type} (rest : List DirectoryEntry)
    (record : List (Bytes × Bytes)) (w : Workspace) (same : entry.name = name) :
    (recordedScan memory name (entry :: rest) : Recorder ε (Option DirectoryEntry)) record w =
      .ok (some entry, record ++ DirectoryEntry.comparedAt name entry)
        { w with
          log := w.log.push (.entryFound entry)
          comparisons := w.comparisons + (DirectoryEntry.comparedAt name entry).length } := by
  obtain ⟨sameBase, sameExtension⟩ := ShortName.eq_iff.mp same
  rw [recordedScan, scan, DirectoryEntry.comparedAt, if_pos sameBase]
  refine (Recorder.bind_ok (Recorder.equal_eq memory entry.name.base name.base)).trans ?_
  rw [decide_eq_true sameBase]
  refine (Recorder.bind_ok
    (Recorder.equal_eq memory entry.name.extension name.extension)).trans ?_
  rw [decide_eq_true sameExtension, List.append_assoc]
  exact Recorder.bind_ok (Recorder.log_eq _)

/-- Behind any other entry the scan goes on. -/
theorem recordedScan_cons_of_ne {ε : Type} (rest : List DirectoryEntry)
    (record : List (Bytes × Bytes)) (w : Workspace) (other : entry.name ≠ name) :
    (recordedScan memory name (entry :: rest) : Recorder ε (Option DirectoryEntry)) record w =
      recordedScan memory name rest (record ++ DirectoryEntry.comparedAt name entry)
        { w with comparisons := w.comparisons + (DirectoryEntry.comparedAt name entry).length } := by
  rw [recordedScan, scan, DirectoryEntry.comparedAt]
  refine (Recorder.bind_ok (Recorder.equal_eq memory entry.name.base name.base)).trans ?_
  by_cases sameBase : entry.name.base = name.base
  · have otherExtension : entry.name.extension ≠ name.extension :=
      fun sameExtension => other (ShortName.eq_iff.mpr ⟨sameBase, sameExtension⟩)
    rw [decide_eq_true sameBase, if_pos sameBase]
    refine (Recorder.bind_ok
      (Recorder.equal_eq memory entry.name.extension name.extension)).trans ?_
    rw [decide_eq_false otherExtension, List.append_assoc]
    rfl
  · rw [decide_eq_false sameBase, if_neg sameBase]
    rfl

/-- **The comparisons on record.** A scan with its comparisons on record finds and leaves what the
scan itself does, and the record is that of the entries it looks at, in their order. -/
theorem recordedScan_eq {ε : Type} (entries : List DirectoryEntry) (record : List (Bytes × Bytes))
    (w : Workspace) :
    (recordedScan memory name entries : Recorder ε (Option DirectoryEntry)) record w =
      .ok (DirectoryEntry.named? name entries,
        record ++ (DirectoryEntry.lookedAt name entries).flatMap (DirectoryEntry.comparedAt name))
        (w.scanned name entries) := by
  induction entries generalizing record w with
  | nil =>
    simp [recordedScan, scan, Workspace.scanned, DirectoryEntry.named?, DirectoryEntry.lookedAt,
      DirectoryEntry.comparisonsFor, pure, StateT.pure, EStateM.pure]
  | cons entry rest ih =>
    by_cases same : entry.name = name
    · rw [recordedScan_cons_of_eq rest record w same, DirectoryEntry.lookedAt_cons_of_eq rest same,
        List.flatMap_singleton, Workspace.scanned, DirectoryEntry.comparisonsFor_cons_of_eq rest same,
        DirectoryEntry.named?_cons_of_eq rest same]
      rfl
    · rw [recordedScan_cons_of_ne rest record w same, ih,
        DirectoryEntry.lookedAt_cons_of_ne rest same, List.flatMap_cons, List.append_assoc,
        Workspace.scanned, Workspace.scanned, DirectoryEntry.comparisonsFor_cons_of_ne rest same,
        DirectoryEntry.named?_cons_of_ne rest same, Nat.add_assoc]

/-! How often lookups and loads compare. -/

/-- How often fields are compared for a path: never if it is no name or the directory is not all
there. -/
def comparisonsOf (v : Volume) (path : String) : Nat :=
  match ShortName.ofPath? path with
  | none => 0
  | some name =>
    match v.directory with
    | .error _ => 0
    | .ok entries => DirectoryEntry.comparisonsFor name entries

theorem comparisonsOf_of_directory {entries : List DirectoryEntry}
    (isName : ShortName.ofPath? path = some name) (hasEntries : v.directory = .ok entries) :
    v.comparisonsOf path = DirectoryEntry.comparisonsFor name entries := by
  simp only [comparisonsOf, isName, hasEntries]

theorem comparisonsOf_of_no_name (noName : ShortName.ofPath? path = none) :
    v.comparisonsOf path = 0 := by
  simp only [comparisonsOf, noName]

theorem comparisonsOf_of_outside (outside : v.image.size < v.rootEnd) : v.comparisonsOf path = 0 := by
  rw [comparisonsOf, directory_of_outside outside]
  split <;> rfl

theorem comparisons_searched (v : Volume) (path : String) (w : Workspace) :
    (v.searched path w).comparisons = w.comparisons + v.comparisonsOf path := by
  unfold searched comparisonsOf
  cases ShortName.ofPath? path with
  | none => rfl
  | some name => cases v.directory <;> rfl

theorem comparisons_after_lookup (v : Volume) (memory : Memory) (path : String) (w : Workspace) :
    ((v.lookup memory path).after w).comparisons = w.comparisons + v.comparisonsOf path := by
  rw [← comparisons_searched]
  rcases v.resolve_cases path with ⟨cause, isAbsence, absent⟩ | ⟨reason, broken⟩ | ⟨entry, found⟩
  · rw [after_of_ok (lookup_of_absent absent isAbsence)]
  · rw [after_of_error (lookup_of_abort broken)]
  · rw [after_of_ok (lookup_of_resolve found)]

/-- A load compares only to look its path up. -/
theorem comparisons_after_load (v : Volume) (memory : Memory) (path : String) (w : Workspace) :
    ((v.load memory path).after w).comparisons = w.comparisons + v.comparisonsOf path := by
  rw [← comparisons_searched]
  cases resolved : v.resolve path with
  | error cause =>
    have loaded : v.load memory path w = _ := loadInto_of_missing resolved
    rw [after_of_error loaded]
  | ok entry =>
    rw [after_load_of_resolve resolved,
      comparisons_after_read _ _ _ (Nat.le_of_eq (by rw [destination_searched]))]

theorem comparisons_after_loadIfPresent (v : Volume) (memory : Memory) (path : String)
    (w : Workspace) :
    ((v.loadIfPresent memory path).after w).comparisons = w.comparisons + v.comparisonsOf path := by
  rcases v.resolve_cases path with ⟨cause, isAbsence, absent⟩ | ⟨reason, broken⟩ | ⟨entry, found⟩
  · rw [after_of_ok (loadIfPresent_of_absent absent isAbsence), ← comparisons_searched]
    rfl
  · rw [after_of_error (loadIfPresent_of_abort broken), comparisons_searched]
  · rw [after_loadIfPresent_of_resolve found, comparisons_after_load]

/-- The entries of a directory are among its records, each with its number. -/
theorem exists_record_of_mem {entries : List DirectoryEntry} (hasEntries : v.directory = .ok entries)
    (member : entry ∈ entries) : ∃ i < v.recordCount, v.lists i ∧ v.record i = entry := by
  have inside := exists_directory_iff.mp ⟨entries, hasEntries⟩
  rw [directory_eq_lists inside, Except.ok.injEq] at hasEntries
  subst hasEntries
  obtain ⟨i, listed, rfl⟩ := List.mem_map.mp member
  obtain ⟨inRange, lists⟩ := List.mem_filter.mp listed
  exact ⟨i, List.mem_range.mp inRange, lists, rfl⟩

theorem length_le_recordCount {entries : List DirectoryEntry}
    (hasEntries : v.directory = .ok entries) : entries.length ≤ v.recordCount := by
  have inside := exists_directory_iff.mp ⟨entries, hasEntries⟩
  rw [directory_eq_lists inside, Except.ok.injEq] at hasEntries
  rw [← hasEntries, List.length_map]
  exact Nat.le_trans (List.length_filter_le ..) (Nat.le_of_eq List.length_range)

/-- At most two comparisons for each record. -/
theorem comparisonsOf_le (v : Volume) (path : String) : v.comparisonsOf path ≤ 2 * v.recordCount := by
  unfold comparisonsOf
  split
  · exact Nat.zero_le _
  · rename_i name isName
    split
    · exact Nat.zero_le _
    · rename_i entries hasEntries
      have looked : (DirectoryEntry.lookedAt name entries).length ≤ entries.length :=
        List.length_take_le' ..
      have same : ((DirectoryEntry.lookedAt name entries).countP
          fun entry => entry.name.base = name.base) ≤ _ := List.countP_le_length
      have := length_le_recordCount hasEntries
      rw [DirectoryEntry.comparisonsFor_eq]
      omega

/-- **How often a lookup compares.** Looking a path up, loading the file it denotes and loading it
if it is present all compare the same number of times: once for each entry up to the first that
carries the name, or for all if none does, and once more for each of these whose base is the same;
so at most twice for each record. Run with its comparisons on record, the same scan has just as many
of them, and each is of a field of a listed record, never of one that is unused, deleted or a
fragment of a long name. If the path is no name, or the directory ends behind the image, nothing is
compared at all. -/
theorem lookup_comparisons (v : Volume) (memory : Memory) (path : String) (w : Workspace) :
    (∀ name entries, ShortName.ofPath? path = some name → v.directory = .ok entries →
      ∃ count, count = (DirectoryEntry.lookedAt name entries).length +
          ((DirectoryEntry.lookedAt name entries).countP fun entry => entry.name.base = name.base) ∧
        ((v.lookup memory path).after w).comparisons = w.comparisons + count ∧
        ((v.load memory path).after w).comparisons = w.comparisons + count ∧
        ((v.loadIfPresent memory path).after w).comparisons = w.comparisons + count ∧
        count ≤ 2 * v.recordCount ∧
        (firstNamed memory name entries : Loader Abort _) =
          scan (Loader.equal memory) (fun entry => Loader.log (.entryFound entry)) name entries ∧
        ∃ found record left, v.lookup memory path w = .ok found left ∧
          (recordedScan memory name entries : Recorder Abort _) [] w = .ok (found, record) left ∧
          record.length = count ∧
          ∀ stretches ∈ record, ∃ i < v.recordCount, v.lists i ∧
            (stretches = ((v.record i).name.base.toArray, name.base.toArray) ∨
              (v.record i).name.base = name.base ∧
                stretches = ((v.record i).name.extension.toArray, name.extension.toArray))) ∧
    (ShortName.ofPath? path = none ∨ v.image.size < v.rootEnd →
      ((v.lookup memory path).after w).comparisons = w.comparisons ∧
      ((v.load memory path).after w).comparisons = w.comparisons ∧
      ((v.loadIfPresent memory path).after w).comparisons = w.comparisons) := by
  constructor
  · intro name entries isName hasEntries
    have count := comparisonsOf_of_directory isName hasEntries
    refine ⟨v.comparisonsOf path, by rw [count, DirectoryEntry.comparisonsFor_eq],
      v.comparisons_after_lookup memory path w, v.comparisons_after_load memory path w,
      v.comparisons_after_loadIfPresent memory path w, v.comparisonsOf_le path,
      firstNamed_eq_scan memory name entries, ?_⟩
    refine ⟨_, _, _, (lookup_of_name isName).trans (findNamed_of_directory name w hasEntries),
      recordedScan_eq entries [] w, ?_, ?_⟩
    · rw [List.nil_append, count, DirectoryEntry.comparisonsFor_eq_length]
    · intro stretches member
      obtain ⟨entry, looked, compared⟩ := List.mem_flatMap.mp member
      obtain ⟨i, before, listed, rfl⟩ :=
        exists_record_of_mem hasEntries (DirectoryEntry.mem_of_mem_lookedAt looked)
      exact ⟨i, before, listed, DirectoryEntry.mem_comparedAt compared⟩
  · intro unscanned
    have none : v.comparisonsOf path = 0 :=
      unscanned.elim comparisonsOf_of_no_name comparisonsOf_of_outside
    rw [comparisons_after_lookup, comparisons_after_load, comparisons_after_loadIfPresent, none]
    exact ⟨rfl, rfl, rfl⟩

/-- The volume with gaps in its directory, with other records in it: a file of another name, a
deleted one, one whose extension alone is other, and the file itself. -/
def sampleWithNearMisses : Volume :=
  { sampleWithGaps with
    image := Array.replicate 38 0 ++
      ({ sampleEntry with name.base := ShortName.pad 8 [0x5A] } : DirectoryEntry).encode ++
      ({ sampleEntry with name.base := ShortName.pad 8 [0xE5] } : DirectoryEntry).encode ++
      ({ sampleEntry with name.extension := ShortName.pad 3 [0x43] } : DirectoryEntry).encode ++
      sampleEntry.encode }

/-- The file is found with five comparisons: three entries, two of them with its base. None is made
for a path that is no name, and none where the directory is not all there. -/
theorem lookup_comparisons_sampleWithNearMisses :
    ((sampleWithNearMisses.lookup .clipping "A.B").after (.start #[])).comparisons = 5 ∧
    ((sampleWithNearMisses.load .clipping "A.B").after (.start #[])).comparisons = 5 ∧
    ((sampleWithNearMisses.loadIfPresent .clipping "A.B").after (.start #[])).comparisons = 5 ∧
    ((sampleWithNearMisses.load .strict "A.B/").after (.start #[])).comparisons = 0 ∧
    (((sampleWithNearMisses.onImage #[]).loadIfPresent .strict "A.B").after
      (.start #[])).comparisons = 0 := by
  have isName : ShortName.ofPath? "A.B" = some sampleEntry.name := by decide +kernel
  have noName : ShortName.ofPath? "A.B/" = none := by decide +kernel
  have listed : (List.range sampleWithNearMisses.recordCount).filter sampleWithNearMisses.lists =
      [0, 2, 3] := by decide +kernel
  have hasEntries := directory_eq_lists (v := sampleWithNearMisses) (by decide +kernel)
  rw [listed] at hasEntries
  obtain ⟨scanned, -⟩ := lookup_comparisons sampleWithNearMisses .clipping "A.B" (.start #[])
  obtain ⟨-, unscanned⟩ := lookup_comparisons sampleWithNearMisses .strict "A.B/" (.start #[])
  obtain ⟨-, shut⟩ := lookup_comparisons (sampleWithNearMisses.onImage #[]) .strict "A.B" (.start #[])
  obtain ⟨count, counted, lookups, loads, tolerated, -⟩ := scanned _ _ isName hasEntries
  have five : count = 5 := counted.trans (by decide +kernel)
  subst five
  exact ⟨lookups, loads, tolerated, (unscanned (.inl noName)).2.1,
    (shut (.inr (by decide +kernel))).2.2⟩

end Volume

end BootDisk
