import BootDisk.Proofs.Directory
import BootDisk.Proofs.Load
import BootDisk.Proofs.Outcome

/-!
# What a path denotes

On a volume a path denotes an entry, or there is a reason why it denotes none: the path is no name,
the root directory is not all there, or no entry carries the name. `resolve` says which of these it
is from the path and the image alone. Looking a path up and loading a file both do what it says.
-/

namespace BootDisk

open Loader

/-- Whether a reason says that a file is absent. -/
def LoadError.IsAbsence (cause : LoadError) : Prop :=
  cause = .unsupportedPath ∨ cause = .notFound

namespace Volume

/-- The entry that a path denotes, or why it denotes none. -/
def resolve (v : Volume) (path : String) : Except LoadError DirectoryEntry :=
  match ShortName.ofPath? path with
  | none => .error .unsupportedPath
  | some name =>
    match v.directory with
    | .error reason => .error (.abort reason)
    | .ok entries =>
      match DirectoryEntry.named? name entries with
      | none => .error .notFound
      | some entry => .ok entry

/-- How a path comes to denote an entry, or none. -/
inductive Resolves (v : Volume) (path : String) : Except LoadError DirectoryEntry → Prop where
  | unsupported (noName : ShortName.ofPath? path = none) : Resolves v path (.error .unsupportedPath)
  | shut {name : ShortName} {reason : Abort} (isName : ShortName.ofPath? path = some name)
    (noDirectory : v.directory = .error reason) : Resolves v path (.error (.abort reason))
  | absent {name : ShortName} {entries : List DirectoryEntry}
    (isName : ShortName.ofPath? path = some name) (hasEntries : v.directory = .ok entries)
    (unnamed : DirectoryEntry.named? name entries = none) : Resolves v path (.error .notFound)
  | found {name : ShortName} {entries : List DirectoryEntry} {entry : DirectoryEntry}
    (isName : ShortName.ofPath? path = some name) (hasEntries : v.directory = .ok entries)
    (named : DirectoryEntry.named? name entries = some entry) : Resolves v path (.ok entry)

/-- The workspace once a path was looked up. -/
def searched (v : Volume) (path : String) (w : Workspace) : Workspace :=
  match ShortName.ofPath? path with
  | none => w
  | some name =>
    match v.directory with
    | .error _ => w
    | .ok entries => w.scanned name entries

variable {v : Volume} {memory : Memory} {path : String} {w : Workspace}
  {room : DirectoryEntry → Loader LoadError Nat} {entry : DirectoryEntry} {cause : LoadError}
  {reason : Abort}

/-- Whatever a path resolves to has come about in one of the ways. -/
theorem resolves_of_resolve {result : Except LoadError DirectoryEntry}
    (h : v.resolve path = result) : v.Resolves path result := by
  subst h
  unfold resolve
  split
  · rename_i noName
    exact .unsupported noName
  · rename_i name isName
    split
    · rename_i reason noDirectory
      exact .shut isName noDirectory
    · rename_i entries hasEntries
      split
      · rename_i unnamed
        exact .absent isName hasEntries unnamed
      · rename_i entry named
        exact .found isName hasEntries named

theorem searched_of_directory {name : ShortName} {entries : List DirectoryEntry}
    (isName : ShortName.ofPath? path = some name) (hasEntries : v.directory = .ok entries) :
    v.searched path w = w.scanned name entries := by
  simp only [searched, isName, hasEntries]

/-- A lookup writes nothing. -/
@[simp]
theorem destination_searched (v : Volume) (path : String) (w : Workspace) :
    (v.searched path w).destination = w.destination := by
  unfold searched
  repeat' split
  all_goals rfl

/-- A lookup copies nothing. -/
@[simp]
theorem copies_searched (v : Volume) (path : String) (w : Workspace) :
    (v.searched path w).copies = w.copies := by
  unfold searched
  repeat' split
  all_goals rfl

/-- All that a lookup says in the log is which entry it found. -/
theorem log_searched (v : Volume) (path : String) (w : Workspace) :
    (v.searched path w).log =
      w.log ++ ((v.resolve path).toOption.map Event.entryFound).toArray := by
  cases resolved : v.resolve path with
  | error cause =>
    cases resolves_of_resolve resolved with
    | unsupported noName => simp [searched, noName, Except.toOption]
    | shut isName noDirectory => simp [searched, isName, noDirectory, Except.toOption]
    | absent isName hasEntries unnamed =>
      simp [searched_of_directory isName hasEntries, Workspace.scanned, unnamed, Except.toOption]
  | ok entry =>
    cases resolves_of_resolve resolved with
    | found isName hasEntries named =>
      simp [searched_of_directory isName hasEntries, Workspace.scanned, named, Except.toOption]

theorem log_searched_of_missing (missing : v.resolve path = .error cause) :
    (v.searched path w).log = w.log := by
  rw [log_searched, missing]
  exact Array.append_empty

/-- A path denotes no entry because there is no such file, or because the directory is not all
there. -/
theorem resolve_cases (v : Volume) (path : String) :
    (∃ cause, cause.IsAbsence ∧ v.resolve path = .error cause) ∨
      (∃ reason, v.resolve path = .error (.abort reason)) ∨
      ∃ entry, v.resolve path = .ok entry := by
  cases resolved : v.resolve path with
  | error cause =>
    cases resolves_of_resolve resolved with
    | unsupported => exact .inl ⟨_, .inl rfl, rfl⟩
    | shut => exact .inr (.inl ⟨_, rfl⟩)
    | absent => exact .inl ⟨_, .inr rfl, rfl⟩
  | ok entry => exact .inr (.inr ⟨entry, rfl⟩)

/-- A path is not resolved for an abort exactly if it is a name and the root directory is not inside
the image. -/
theorem resolve_eq_abort_iff :
    v.resolve path = .error (.abort reason) ↔
      (∃ name, ShortName.ofPath? path = some name) ∧
        v.image.size < v.layout.rootOffset.toNat + v.layout.rootSize.toNat ∧
        reason = .outOfBounds v.layout.rootOffset.toNat v.layout.rootSize.toNat := by
  rw [v.toNat_rootSize_eq]
  constructor
  · intro broken
    cases resolves_of_resolve broken with
    | @shut name _ isName noDirectory =>
      rcases Nat.lt_or_ge v.image.size
        (v.rootPosition + DirectoryEntry.recordLength * v.recordCount) with outside | inside
      · rw [directory_eq_error outside, v.toNat_rootSize_eq] at noDirectory
        cases noDirectory
        exact ⟨⟨name, isName⟩, outside, rfl⟩
      · rw [directory_eq_ok inside] at noDirectory
        cases noDirectory
  · rintro ⟨⟨name, isName⟩, outside, rfl⟩
    have noDirectory := directory_eq_error (v := v) outside
    rw [v.toNat_rootSize_eq] at noDirectory
    simp only [resolve, isName, noDirectory]

/-! Looking a path up. -/

theorem lookup_of_resolve (found : v.resolve path = .ok entry) :
    v.lookup memory path w = .ok (some entry) (v.searched path w) := by
  cases resolves_of_resolve found with
  | @found name _ _ isName hasEntries named =>
    rw [searched_of_directory isName hasEntries, lookup, isName, ← named]
    exact findNamed_of_directory name w hasEntries

theorem lookup_of_absent (absent : v.resolve path = .error cause) (isAbsence : cause.IsAbsence) :
    v.lookup memory path w = .ok none (v.searched path w) := by
  cases resolves_of_resolve absent with
  | unsupported noName =>
    simp only [lookup, searched, noName]
    rfl
  | shut => rcases isAbsence with same | same <;> cases same
  | @absent name _ isName hasEntries unnamed =>
    rw [searched_of_directory isName hasEntries, lookup, isName, ← unnamed]
    exact findNamed_of_directory name w hasEntries

theorem lookup_of_abort (broken : v.resolve path = .error (.abort reason)) :
    v.lookup memory path w = .error (.failure reason) (v.searched path w) := by
  cases resolves_of_resolve broken with
  | @shut name _ isName noDirectory =>
    simp only [lookup, searched, isName, noDirectory]
    exact findNamed_of_no_directory name w noDirectory

/-- The outcome of a lookup, by what the path resolves to. -/
theorem outcome_lookup (v : Volume) (memory : Memory) (path : String) (w : Workspace) :
    (v.lookup memory path).outcome w =
      match v.resolve path with
      | .ok entry => .ok (some entry)
      | .error (.abort reason) => .error (.failure reason)
      | .error _ => .ok none := by
  rcases v.resolve_cases path with ⟨cause, isAbsence, absent⟩ | ⟨reason, broken⟩ | ⟨entry, found⟩
  · rw [outcome_of_ok (lookup_of_absent absent isAbsence), absent]
    rcases isAbsence with rfl | rfl <;> rfl
  · rw [outcome_of_error (lookup_of_abort broken), broken]
  · rw [outcome_of_ok (lookup_of_resolve found), found]

/-- A lookup finds nothing exactly where the path denotes no entry for want of one. -/
theorem lookup_eq_none_iff :
    (v.lookup memory path).outcome w = .ok none ↔
      ∃ cause, cause.IsAbsence ∧ v.resolve path = .error cause := by
  rw [outcome_lookup]
  rcases v.resolve_cases path with ⟨cause, isAbsence, absent⟩ | ⟨reason, broken⟩ | ⟨entry, found⟩
  · rw [absent]
    refine ⟨fun _ => ⟨cause, isAbsence, rfl⟩, fun _ => ?_⟩
    rcases isAbsence with rfl | rfl <;> rfl
  · rw [broken]
    refine ⟨nofun, ?_⟩
    rintro ⟨cause, isAbsence, same⟩
    cases same
    rcases isAbsence with same | same <;> cases same
  · rw [found]
    exact ⟨nofun, nofun⟩

theorem lookup_eq_some_iff :
    (v.lookup memory path).outcome w = .ok (some entry) ↔ v.resolve path = .ok entry := by
  rw [outcome_lookup]
  rcases v.resolve_cases path with ⟨cause, isAbsence, absent⟩ | ⟨reason, broken⟩ | ⟨entry, found⟩
  · rw [absent]
    rcases isAbsence with rfl | rfl <;> exact ⟨nofun, nofun⟩
  · rw [broken]
    exact ⟨nofun, nofun⟩
  · rw [found]
    simp only [Except.ok.injEq, Option.some.injEq]

theorem lookup_eq_error_iff {stop : Stop Abort} :
    (v.lookup memory path).outcome w = .error stop ↔
      ∃ reason, v.resolve path = .error (.abort reason) ∧ stop = .failure reason := by
  rw [outcome_lookup]
  rcases v.resolve_cases path with ⟨cause, isAbsence, absent⟩ | ⟨reason, broken⟩ | ⟨entry, found⟩
  · rw [absent]
    rcases isAbsence with rfl | rfl <;> simp
  · rw [broken]
    simp [eq_comm]
  · rw [found]
    simp

/-! Loading a file. -/

/-- A load ends where its path denotes no entry. -/
theorem loadInto_of_missing (missing : v.resolve path = .error cause) :
    v.loadInto memory room path w = .error (.failure cause) (v.searched path w) := by
  cases resolves_of_resolve missing with
  | unsupported noName =>
    simp only [searched, noName]
    exact loadInto_of_no_name noName
  | shut isName noDirectory =>
    simp only [searched, isName, noDirectory]
    exact loadInto_of_no_directory isName noDirectory
  | absent isName hasEntries unnamed =>
    rw [searched_of_directory isName hasEntries]
    exact loadInto_of_absent isName hasEntries unnamed

/-- A load of an entry is the read of the entry into the room there is for it. -/
theorem loadInto_of_resolve {size : Nat} (found : v.resolve path = .ok entry)
    (hasRoom : room entry (v.searched path w) = .ok size (v.searched path w))
    (inside : size ≤ w.destination.size) :
    v.loadInto memory room path w =
      (v.read memory size entry.cluster.toUInt32 entry.size).restate .abort (v.searched path w) := by
  cases resolves_of_resolve found with
  | found isName hasEntries named =>
    rw [searched_of_directory isName hasEntries] at hasRoom ⊢
    exact loadInto_of_entry isName hasEntries named hasRoom inside

theorem load_of_resolve (found : v.resolve path = .ok entry) :
    v.load memory path w =
      (v.read memory w.destination.size entry.cluster.toUInt32 entry.size).restate .abort
        (v.searched path w) := by
  refine loadInto_of_resolve found ?_ (Nat.le_refl _)
  rw [wholeRoom_eq, destination_searched]

theorem after_load_of_resolve (found : v.resolve path = .ok entry) :
    (v.load memory path).after w =
      (v.read memory w.destination.size entry.cluster.toUInt32 entry.size).after
        (v.searched path w) := by
  rw [after, load_of_resolve found, ← after_restate LoadError.abort, after]

/-- A load of an entry gives its size or is aborted. -/
theorem load_cases_of_resolve (memory : Memory) (w : Workspace) (found : v.resolve path = .ok entry) :
    (∃ w', v.load memory path w = .ok entry.size w') ∨
      ∃ reason w', v.load memory path w = .error (.failure (.abort reason)) w' := by
  rw [load_of_resolve found]
  rcases v.read_cases memory entry.cluster.toUInt32 entry.size (w := v.searched path w)
      (Nat.le_of_eq (by rw [destination_searched])) with
    ⟨reason, -, ended⟩ | ⟨cluster, -, ⟨-, ended⟩ | ⟨-, ended⟩⟩
  · exact .inr ⟨reason, _, restate_failure ended⟩
  · exact .inr ⟨_, _, restate_failure ended⟩
  · cases failed : (v.walk entry.cluster.toUInt32.toNat entry.size).failure? with
    | some reason =>
      rw [failed] at ended
      exact .inr ⟨reason, _, restate_failure ended⟩
    | none =>
      rw [failed] at ended
      exact .inl ⟨_, restate_ok ended⟩

/-- A read leaves all as it was, or delivers its walk. -/
theorem after_read_cases (memory : Memory) (first size : UInt32) {room : Nat}
    (inside : room ≤ w.destination.size) :
    (v.read memory room first size).after w = w ∨
      (v.read memory room first size).after w = v.deliver (v.walk first.toNat size) w := by
  rcases v.read_cases memory first size inside with
    ⟨reason, -, ended⟩ | ⟨cluster, -, ⟨-, ended⟩ | ⟨-, ended⟩⟩
  · exact .inl (after_of_error ended)
  · exact .inl (after_of_error ended)
  · cases failed : (v.walk first.toNat size).failure? with
    | some reason =>
      rw [failed] at ended
      exact .inr (after_of_error ended)
    | none =>
      rw [failed] at ended
      exact .inr (after_of_ok ended)

/-- No read changes the length of the destination. -/
theorem size_after_read (memory : Memory) (first size : UInt32) {room : Nat}
    (inside : room ≤ w.destination.size) :
    ((v.read memory room first size).after w).destination.size = w.destination.size := by
  rcases after_read_cases (v := v) memory first size inside with same | delivered
  · rw [same]
  · rw [delivered]
    exact Bytes.size_overwrite ..

/-- A read compares nothing. -/
theorem comparisons_after_read (memory : Memory) (first size : UInt32) {room : Nat}
    (inside : room ≤ w.destination.size) :
    ((v.read memory room first size).after w).comparisons = w.comparisons := by
  rcases after_read_cases (v := v) memory first size inside with same | delivered
  · rw [same]
  · rw [delivered]
    rfl

/-- All that a read says in the log is which clusters it visited. -/
theorem log_after_read (memory : Memory) (first size : UInt32) {room : Nat}
    (inside : room ≤ w.destination.size) :
    ∃ visits : Array Visit, ((v.read memory room first size).after w).log =
      w.log ++ visits.map fun visit => .clusterVisited visit.cluster visit.offset visit.link := by
  rcases after_read_cases (v := v) memory first size inside with same | delivered
  · exact ⟨#[], by rw [same, Array.map_empty, Array.append_empty]⟩
  · exact ⟨(v.walk first.toNat size).visits, by rw [delivered]; rfl⟩

/-- No load changes the length of the destination. -/
theorem size_after_load (v : Volume) (memory : Memory) (path : String) (w : Workspace) :
    ((v.load memory path).after w).destination.size = w.destination.size := by
  cases resolved : v.resolve path with
  | error cause =>
    have loaded : v.load memory path w = _ := loadInto_of_missing resolved
    rw [after_of_error loaded, destination_searched]
  | ok entry =>
    have inside : w.destination.size ≤ (v.searched path w).destination.size :=
      Nat.le_of_eq (by rw [destination_searched])
    rw [after_load_of_resolve resolved, size_after_read _ _ _ inside, destination_searched]

/-- All that a load says in the log is which entry it found and which clusters it visited. -/
theorem log_after_load (v : Volume) (memory : Memory) (path : String) (w : Workspace) :
    ∃ visits : Array Visit, ((v.load memory path).after w).log =
      w.log ++ ((v.resolve path).toOption.map Event.entryFound).toArray ++
        visits.map fun visit => .clusterVisited visit.cluster visit.offset visit.link := by
  rw [← log_searched]
  cases resolved : v.resolve path with
  | error cause =>
    have loaded : v.load memory path w = _ := loadInto_of_missing resolved
    exact ⟨#[], by rw [after_of_error loaded, Array.map_empty, Array.append_empty]⟩
  | ok entry =>
    rw [after_load_of_resolve resolved]
    exact log_after_read memory _ _ (Nat.le_of_eq (by rw [destination_searched]))

/-- A load never faults. -/
theorem load_ne_fault {cause : Fault} {w' : Workspace} :
    v.load memory path w ≠ .error (.fault cause) w' := by
  intro faulted
  cases resolved : v.resolve path with
  | error cause' =>
    have loaded : v.load memory path w = _ := loadInto_of_missing resolved
    rw [faulted] at loaded
    cases loaded
  | ok entry =>
    rcases load_cases_of_resolve memory w resolved with ⟨w₁, loaded⟩ | ⟨reason, w₁, loaded⟩
    · rw [faulted] at loaded
      cases loaded
    · rw [faulted] at loaded
      cases loaded

end Volume

end BootDisk
