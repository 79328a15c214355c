import BootDisk.Proofs.ReadOutcome
import BootDisk.Proofs.Stages

/-!
# Present, absent and unknown files

Looking a path up, loading the file it denotes, and loading the file if it is present are three
entry points to one decision. For an absent file all three say so and touch nothing; where the
directory is not all there all three are aborted alike; and a present file is read, so that a load
that tolerates absence never calls a present file absent (`lookup_and_load_agree`). All of it
follows from what the path resolves to.
-/

namespace BootDisk

open Loader

/-- A log that some events without a warning were added to. -/
def AddsNoWarning (before after : Array Event) : Prop :=
  ∃ events : Array Event, after = before ++ events ∧ ∀ event ∈ events, event.level ≠ .warn

namespace Volume

variable {v : Volume} {memory : Memory} {path : String} {w : Workspace} {entry : DirectoryEntry}
  {cause : LoadError} {reason : Abort}

/-! Reads of an entry. -/

/-- No cluster is refused for want of room. -/
theorem refusal?_ne_destinationTooSmall (v : Volume) (c wanted needed available : Nat) :
    v.refusal? c wanted ≠ some (.destinationTooSmall needed available) := by
  unfold refusal?
  repeat' split
  all_goals exact nofun

/-- A read fails for want of room only if there is too little. -/
theorem size_lt_of_read_destinationTooSmall {first size : UInt32} {needed available : Nat}
    {w' : Workspace} (h : v.read memory w.destination.size first size w =
      .error (.failure (.destinationTooSmall needed available)) w') :
    w.destination.size < size.toNat := by
  obtain ⟨reason, same, failure⟩ := readFailure_of_error h
  cases same
  generalize w'.destination = left at failure
  cases failure with
  | noRoom valid small => exact small
  | atVisit valid fits fails left =>
    exact absurd fails.refused (v.refusal?_ne_destinationTooSmall _ _ _ _)

/-- A load logs no warning. -/
theorem log_load_addsNoWarning (v : Volume) (memory : Memory) (path : String) (w : Workspace) :
    AddsNoWarning w.log ((v.load memory path).after w).log := by
  obtain ⟨visits, told⟩ := v.log_after_load memory path w
  refine ⟨_, told.trans (Array.append_assoc ..), ?_⟩
  intro event member
  rcases Array.mem_append.mp member with found | visited
  · obtain ⟨entry, -, rfl⟩ := Option.map_eq_some_iff.mp (Option.mem_toArray.mp found)
    exact nofun
  · obtain ⟨visit, -, rfl⟩ := Array.mem_map.mp visited
    exact nofun

/-! Loading a file if it is present. -/

theorem tolerateAbsence_of_ok {step : Loader LoadError UInt32} {size : UInt32} {w' : Workspace}
    (loaded : step w = .ok size w') : tolerateAbsence path step w = .ok true w' :=
  orRecover_ok (bind_ok loaded)

theorem tolerateAbsence_of_abort {step : Loader LoadError UInt32} {w' : Workspace}
    (aborted : step w = .error (.failure (.abort reason)) w') :
    tolerateAbsence path step w = .error (.failure reason) w' :=
  orRecover_failure (bind_error aborted)

theorem tolerateAbsence_of_absent {step : Loader LoadError UInt32} {w' : Workspace}
    (absent : step w = .error (.failure cause) w') (isAbsence : cause.IsAbsence) :
    tolerateAbsence path step w = .ok false (w'.logged (.fileSkipped path cause)) := by
  refine (orRecover_failure (bind_error absent)).trans ?_
  rcases isAbsence with rfl | rfl
  · rfl
  · rfl

theorem loadIfPresent_of_absent (absent : v.resolve path = .error cause)
    (isAbsence : cause.IsAbsence) :
    v.loadIfPresent memory path w =
      .ok false ((v.searched path w).logged (.fileSkipped path cause)) :=
  tolerateAbsence_of_absent (loadInto_of_missing absent) isAbsence

theorem loadIfPresent_of_abort (broken : v.resolve path = .error (.abort reason)) :
    v.loadIfPresent memory path w = .error (.failure reason) (v.searched path w) :=
  tolerateAbsence_of_abort (loadInto_of_missing broken)

/-- A present file is loaded, or the load is aborted as the read of its entry is. -/
theorem loadIfPresent_of_resolve (memory : Memory) (w : Workspace)
    (found : v.resolve path = .ok entry) :
    (∃ w', v.load memory path w = .ok entry.size w' ∧ v.loadIfPresent memory path w = .ok true w') ∨
      ∃ reason w', v.load memory path w = .error (.failure (.abort reason)) w' ∧
        v.loadIfPresent memory path w = .error (.failure reason) w' := by
  rcases load_cases_of_resolve memory w found with ⟨w', loaded⟩ | ⟨reason, w', loaded⟩
  · exact .inl ⟨w', loaded, tolerateAbsence_of_ok loaded⟩
  · exact .inr ⟨reason, w', loaded, tolerateAbsence_of_abort loaded⟩

theorem not_isAbsence_abort (reason : Abort) : ¬ (LoadError.abort reason).IsAbsence := by
  rintro (same | same) <;> cases same

/-- A load says that a file is absent exactly where its path denotes no entry for want of one. -/
theorem load_eq_absence_iff :
    (∃ cause, cause.IsAbsence ∧ (v.load memory path).outcome w = .error (.failure cause)) ↔
      ∃ cause, cause.IsAbsence ∧ v.resolve path = .error cause := by
  rcases v.resolve_cases path with ⟨cause, isAbsence, absent⟩ | ⟨reason, broken⟩ | ⟨entry, found⟩
  · have loaded : v.load memory path w = _ := loadInto_of_missing absent
    rw [outcome_of_error loaded, absent]
    exact ⟨fun _ => ⟨cause, isAbsence, rfl⟩, fun _ => ⟨cause, isAbsence, rfl⟩⟩
  · have loaded : v.load memory path w = _ := loadInto_of_missing broken
    rw [outcome_of_error loaded, broken]
    constructor <;>
    · rintro ⟨cause, isAbsence, same⟩
      cases same
      exact absurd isAbsence (not_isAbsence_abort reason)
  · rw [found]
    refine ⟨?_, nofun⟩
    rintro ⟨cause, isAbsence, same⟩
    rcases loadIfPresent_of_resolve memory w found with
      ⟨w', loaded, -⟩ | ⟨reason, w', loaded, -⟩
    · rw [outcome_of_ok loaded] at same
      cases same
    · rw [outcome_of_error loaded] at same
      cases same
      exact absurd isAbsence (not_isAbsence_abort reason)

/-- A load that tolerates absence answers that a file is not there exactly where its path denotes no
entry for want of one. -/
theorem loadIfPresent_eq_false_iff :
    (v.loadIfPresent memory path).outcome w = .ok false ↔
      ∃ cause, cause.IsAbsence ∧ v.resolve path = .error cause := by
  rcases v.resolve_cases path with ⟨cause, isAbsence, absent⟩ | ⟨reason, broken⟩ | ⟨entry, found⟩
  · rw [outcome_of_ok (loadIfPresent_of_absent absent isAbsence), absent]
    exact ⟨fun _ => ⟨cause, isAbsence, rfl⟩, fun _ => rfl⟩
  · rw [outcome_of_error (loadIfPresent_of_abort broken), broken]
    refine ⟨nofun, ?_⟩
    rintro ⟨cause, isAbsence, same⟩
    cases same
    exact absurd isAbsence (not_isAbsence_abort reason)
  · rw [found]
    refine ⟨?_, nofun⟩
    intro same
    rcases loadIfPresent_of_resolve memory w found with
      ⟨w', -, tolerated⟩ | ⟨reason, w', -, tolerated⟩
    · rw [outcome_of_ok tolerated] at same
      cases same
    · rw [outcome_of_error tolerated] at same
      cases same

/-- A load that tolerates absence leaves what the load itself leaves, if the file is present. -/
theorem after_loadIfPresent_of_resolve (found : v.resolve path = .ok entry) :
    (v.loadIfPresent memory path).after w = (v.load memory path).after w := by
  rcases loadIfPresent_of_resolve memory w found with
    ⟨w', loaded, tolerated⟩ | ⟨reason, w', loaded, tolerated⟩
  · rw [after_of_ok loaded, after_of_ok tolerated]
  · rw [after_of_error loaded, after_of_error tolerated]

/-- A load that tolerates absence warns of nothing but an absent file. -/
theorem log_loadIfPresent (present : (v.loadIfPresent memory path).outcome w ≠ .ok false) :
    AddsNoWarning w.log ((v.loadIfPresent memory path).after w).log := by
  rcases v.resolve_cases path with ⟨cause, isAbsence, absent⟩ | ⟨reason, broken⟩ | ⟨entry, found⟩
  · exact absurd (loadIfPresent_eq_false_iff.mpr ⟨cause, isAbsence, absent⟩) present
  · have loaded : v.load memory path w = _ := loadInto_of_missing broken
    rw [after_of_error (loadIfPresent_of_abort broken), ← after_of_error loaded]
    exact v.log_load_addsNoWarning memory path w
  · rw [after_loadIfPresent_of_resolve found]
    exact v.log_load_addsNoWarning memory path w

/-- The load of an entry with enough room does not fail for want of room. -/
theorem load_ne_destinationTooSmall (memory : Memory) (found : v.resolve path = .ok entry)
    (fits : entry.size.toNat ≤ w.destination.size) (needed available : Nat) :
    (v.load memory path).outcome w ≠
      .error (.failure (.abort (.destinationTooSmall needed available))) := by
  intro failed
  have loaded := eq_error_of_outcome failed
  rw [load_of_resolve found] at loaded
  cases ended : v.read memory w.destination.size entry.cluster.toUInt32 entry.size
      (v.searched path w) with
  | ok n w' =>
    rw [restate_ok ended] at loaded
    cases loaded
  | error stop w' =>
    rw [restate_error ended] at loaded
    cases stop with
    | failure reason =>
      cases loaded
      rw [← v.destination_searched path w] at ended
      have small := size_lt_of_read_destinationTooSmall ended
      rw [destination_searched] at small
      omega
    | fault cause => cases loaded

/-- **Lookups and loads agree on which files there are.** Looking a path up finds nothing exactly if
a load says that the path is unsupported or the file not found, and exactly if a load that tolerates
absence answers that the file is not there; then nothing is written or copied, no cluster is
visited, and the one line in the log is the warning of the tolerant load, which is given in no other
case. A lookup fails exactly where the path is a name and the root directory ends behind the image,
and the loads are then aborted for the same reason. If an entry is found, a load is the read of that
entry, never of a part of it, and the tolerant load answers yes or is aborted, for want of room only
if there is too little. -/
theorem lookup_and_load_agree (v : Volume) (memory : Memory) (path : String) (w : Workspace) :
    ((v.lookup memory path).outcome w = .ok none ↔
      ∃ cause, cause.IsAbsence ∧ (v.load memory path).outcome w = .error (.failure cause)) ∧
    ((v.lookup memory path).outcome w = .ok none ↔
      (v.loadIfPresent memory path).outcome w = .ok false) ∧
    ((v.loadIfPresent memory path).outcome w = .ok false →
      ∃ w₁ cause, v.load memory path w = .error (.failure cause) w₁ ∧
        w₁.destination = w.destination ∧ w₁.copies = w.copies ∧ w₁.log = w.log ∧
        v.loadIfPresent memory path w = .ok false (w₁.logged (.fileSkipped path cause)) ∧
        (Event.fileSkipped path cause).level = .warn) ∧
    ((v.loadIfPresent memory path).outcome w ≠ .ok false →
      AddsNoWarning w.log ((v.loadIfPresent memory path).after w).log) ∧
    ((∃ stop, (v.lookup memory path).outcome w = .error stop) ↔
      (∃ name, ShortName.ofPath? path = some name) ∧
        v.image.size < v.layout.rootOffset.toNat + v.layout.rootSize.toNat) ∧
    (∀ stop, (v.lookup memory path).outcome w = .error stop →
      ∃ reason w₁, reason = .outOfBounds v.layout.rootOffset.toNat v.layout.rootSize.toNat ∧
        stop = .failure reason ∧ w₁.destination = w.destination ∧
        v.load memory path w = .error (.failure (.abort reason)) w₁ ∧
        v.loadIfPresent memory path w = .error (.failure reason) w₁) ∧
    ∀ entry, (v.lookup memory path).outcome w = .ok (some entry) →
      ∃ w₁, v.lookup memory path w = .ok (some entry) w₁ ∧ w₁.destination = w.destination ∧
        v.load memory path w =
          (v.read memory w.destination.size entry.cluster.toUInt32 entry.size).restate .abort w₁ ∧
        (∀ expected read,
          (v.load memory path).outcome w ≠ .error (.failure (.truncated expected read))) ∧
        ((v.loadIfPresent memory path).outcome w = .ok true ∨
          ∃ reason, (v.loadIfPresent memory path).outcome w = .error (.failure reason)) ∧
        (entry.size.toNat ≤ w.destination.size → ∀ needed available,
          (v.load memory path).outcome w ≠
              .error (.failure (.abort (.destinationTooSmall needed available))) ∧
            (v.loadIfPresent memory path).outcome w ≠
              .error (.failure (.destinationTooSmall needed available))) := by
  refine ⟨?_, ?_, ?_, log_loadIfPresent, ?_, ?_, ?_⟩
  · exact lookup_eq_none_iff.trans load_eq_absence_iff.symm
  · exact lookup_eq_none_iff.trans loadIfPresent_eq_false_iff.symm
  · intro answered
    obtain ⟨cause, isAbsence, absent⟩ := loadIfPresent_eq_false_iff.mp answered
    exact ⟨v.searched path w, cause, loadInto_of_missing absent, destination_searched ..,
      copies_searched .., log_searched_of_missing absent,
      loadIfPresent_of_absent absent isAbsence, rfl⟩
  · constructor
    · rintro ⟨stop, stopped⟩
      obtain ⟨reason, broken, -⟩ := lookup_eq_error_iff.mp stopped
      obtain ⟨isName, outside, -⟩ := resolve_eq_abort_iff.mp broken
      exact ⟨isName, outside⟩
    · rintro ⟨isName, outside⟩
      exact ⟨_, lookup_eq_error_iff.mpr ⟨_, resolve_eq_abort_iff.mpr ⟨isName, outside, rfl⟩, rfl⟩⟩
  · intro stop stopped
    obtain ⟨reason, broken, same⟩ := lookup_eq_error_iff.mp stopped
    exact ⟨reason, v.searched path w, (resolve_eq_abort_iff.mp broken).2.2, same,
      destination_searched .., loadInto_of_missing broken, loadIfPresent_of_abort broken⟩
  · intro entry looked
    have found := lookup_eq_some_iff.mp looked
    have outcomes := loadIfPresent_of_resolve memory w found
    refine ⟨v.searched path w, lookup_of_resolve found, destination_searched .., load_of_resolve found,
      ?_, ?_, ?_⟩
    · intro expected read truncated
      rcases outcomes with ⟨w', loaded, -⟩ | ⟨reason, w', loaded, -⟩
      · rw [outcome_of_ok loaded] at truncated
        cases truncated
      · rw [outcome_of_error loaded] at truncated
        cases truncated
    · rcases outcomes with ⟨w', -, tolerated⟩ | ⟨reason, w', -, tolerated⟩
      · exact .inl (outcome_of_ok tolerated)
      · exact .inr ⟨reason, outcome_of_error tolerated⟩
    · intro fits needed available
      have enough := load_ne_destinationTooSmall memory found fits needed available
      refine ⟨enough, ?_⟩
      intro failed
      rcases outcomes with ⟨w', -, tolerated⟩ | ⟨reason, w', loaded, tolerated⟩
      · rw [outcome_of_ok tolerated] at failed
        cases failed
      · rw [outcome_of_error tolerated] at failed
        cases failed
        exact enough (outcome_of_error loaded)

/-- The entry of a file of four bytes that starts in cluster 2. -/
def sampleEntry : DirectoryEntry :=
  ⟨⟨ShortName.pad 8 [0x41], ShortName.pad 3 [0x42]⟩, 0x20, 2, 4⟩

/-- The sample volume with that entry in its root directory. -/
def sampleWithEntry : Volume :=
  { sample with
    image :=
      #[0, 0, 0, 0, 0, 0, 0, 0, 0, 0, 0, 2, 0, 1, 13, 0, 1, 1, 0, 0, 0, 0, 6, 0, 0x55, 0xAA,
        0, 0, 0, 0, 4, 0, 5, 0, 0xF8, 0xFF, 0xF7, 0xFF,
        0x41, 0x20, 0x20, 0x20, 0x20, 0x20, 0x20, 0x20, 0x42, 0x20, 0x20, 0x20, 0, 0, 0, 0, 0, 0, 0,
        0, 0, 0, 0, 0, 0, 0, 2, 0, 4, 0, 0, 0, 21, 22, 31, 32, 41, 42, 51, 52] }

/-- A present file, an absent one, and a path that is no name, on a volume whose root directory is
there; and a volume whose root directory is not. -/
theorem lookup_and_load_agree_sample :
    ((sampleWithEntry.lookup .strict "A.B").outcome (.start (Array.replicate 4 9)) =
        .ok (some sampleEntry) ∧
      ∀ needed available,
        (sampleWithEntry.load .strict "A.B").outcome (.start (Array.replicate 4 9)) ≠
          .error (.failure (.abort (.destinationTooSmall needed available)))) ∧
    ((sampleWithEntry.lookup .strict "A.C").outcome (.start #[]) = .ok none ∧
      (sampleWithEntry.loadIfPresent .strict "A.C").outcome (.start #[]) = .ok false ∧
      ∃ cause w', sampleWithEntry.load .strict "A.C" (.start #[]) = .error (.failure cause) w' ∧
        w'.log = #[]) ∧
    ((sampleWithEntry.lookup .strict "/A.B").outcome (.start #[]) = .ok none ∧
      (sampleWithEntry.loadIfPresent .strict "/A.B").outcome (.start #[]) = .ok false) ∧
    ∃ w', ({ sample with image := #[] } : Volume).load .strict "A.B" (.start #[]) =
      .error (.failure (.abort (.outOfBounds 38 32))) w' := by
  have found : (sampleWithEntry.lookup .strict "A.B").outcome (.start (Array.replicate 4 9)) =
      .ok (some sampleEntry) := lookup_eq_some_iff.mpr (by decide +kernel)
  have absent : (sampleWithEntry.lookup .strict "A.C").outcome (.start #[]) = .ok none :=
    lookup_eq_none_iff.mpr ⟨.notFound, .inr rfl, by decide +kernel⟩
  have noName : (sampleWithEntry.lookup .strict "/A.B").outcome (.start #[]) = .ok none :=
    lookup_eq_none_iff.mpr ⟨.unsupportedPath, .inl rfl, by decide +kernel⟩
  have shut : (({ sample with image := #[] } : Volume).lookup .strict "A.B").outcome (.start #[]) =
      .error (.failure (.outOfBounds 38 32)) :=
    lookup_eq_error_iff.mpr ⟨.outOfBounds 38 32, by decide +kernel, rfl⟩
  have present := lookup_and_load_agree sampleWithEntry .strict "A.B" (.start (Array.replicate 4 9))
  have missing := lookup_and_load_agree sampleWithEntry .strict "A.C" (.start #[])
  have unsupported := lookup_and_load_agree sampleWithEntry .strict "/A.B" (.start #[])
  have broken := lookup_and_load_agree { sample with image := #[] } .strict "A.B" (.start #[])
  obtain ⟨-, -, -, -, -, -, ofEntry⟩ := present
  obtain ⟨w₁, -, -, -, -, -, enough⟩ := ofEntry sampleEntry found
  have skipped := missing.2.1.mp absent
  obtain ⟨w₂, cause, loaded, -, -, log, -⟩ := missing.2.2.1 skipped
  obtain ⟨reason, w₃, rfl, -, -, aborted, -⟩ := broken.2.2.2.2.2.1 _ shut
  exact ⟨⟨found, fun needed available => (enough (by decide) needed available).1⟩,
    ⟨absent, skipped, cause, w₂, loaded, log⟩, ⟨noName, unsupported.2.1.mp noName⟩, w₃, aborted⟩

end Volume

end BootDisk
