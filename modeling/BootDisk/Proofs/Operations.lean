import BootDisk.Proofs.Presence
import BootDisk.Proofs.RoundTrip

/-!
# Sequences of operations

A volume is opened once and then asked for its entries, for files and for the bytes of chains, in
any order and as often as wanted. Each operation gives an answer and leaves a workspace for the next
one. No operation minds which memory primitives it works with, since it only ever copies between
stretches of one length; so whole sequences of operations go the same with either set
(`session_eq_of_memory`).
-/

namespace BootDisk

open Loader

/-- What a volume can be asked for. -/
inductive Operation where
  | entries
  | lookup (path : String)
  | read (first size : UInt32)
  | load (path : String)
  | loadIfPresent (path : String)
  deriving DecidableEq

/-- The outcome of an operation. -/
inductive Answer where
  | entries (outcome : Except (Stop Abort) (List DirectoryEntry))
  | lookup (outcome : Except (Stop Abort) (Option DirectoryEntry))
  | read (outcome : Except (Stop Abort) UInt32)
  | load (outcome : Except (Stop LoadError) UInt32)
  | loadIfPresent (outcome : Except (Stop Abort) Bool)
  deriving DecidableEq

/-- An answer that says that the operation broke off at a fault. -/
def Answer.IsFault : Answer → Prop
  | .entries outcome => ∃ cause, outcome = .error (.fault cause)
  | .lookup outcome => ∃ cause, outcome = .error (.fault cause)
  | .read outcome => ∃ cause, outcome = .error (.fault cause)
  | .load outcome => ∃ cause, outcome = .error (.fault cause)
  | .loadIfPresent outcome => ∃ cause, outcome = .error (.fault cause)

namespace Volume

variable {v : Volume} {w : Workspace}

/-- The answer that a step gives and the workspace it leaves. -/
def answered {ε α : Type} (answer : Except (Stop ε) α → Answer) (step : Loader ε α)
    (w : Workspace) : Answer × Workspace :=
  (answer (step.outcome w), step.after w)

/-- Performs an operation. -/
def perform (v : Volume) (memory : Memory) (operation : Operation) (w : Workspace) :
    Answer × Workspace :=
  match operation with
  | .entries => answered .entries (Loader.ofExcept v.directory) w
  | .lookup path => answered .lookup (v.lookup memory path) w
  | .read first size => answered .read (v.read memory w.destination.size first size) w
  | .load path => answered .load (v.load memory path) w
  | .loadIfPresent path => answered .loadIfPresent (v.loadIfPresent memory path) w

/-- Performs operations one after the other, each on the workspace that the one before leaves. -/
def performAll (v : Volume) (memory : Memory) :
    List Operation → Workspace → List Answer × Workspace
  | [], w => ([], w)
  | operation :: rest, w =>
    let (answer, next) := v.perform memory operation w
    let (answers, last) := v.performAll memory rest next
    (answer :: answers, last)

/-- Opens the volume in an image and performs operations on it. -/
def session (memory : Memory) (image : Bytes) (settings : Settings)
    (operations : List Operation) : Loader Abort (List Answer) := do
  let v ← openImage image settings
  let (answers, last) := v.performAll memory operations (← get)
  set last
  return answers

/-! Runs on one memory and on another. -/

theorem answered_congr {ε α : Type} {answer : Except (Stop ε) α → Answer}
    {step step' : Loader ε α} (same : step w = step' w) :
    answered answer step w = answered answer step' w := by
  simp only [answered, outcome, after, same]

theorem tolerateAbsence_congr {path : String} {step step' : Loader LoadError UInt32}
    (same : step w = step' w) : tolerateAbsence path step w = tolerateAbsence path step' w := by
  simp only [tolerateAbsence, orRecover, bind, EStateM.bind, same]

theorem lookup_eq_of_memory (memory memory' : Memory) (path : String) :
    v.lookup memory path w = v.lookup memory' path w := by
  rcases v.resolve_cases path with ⟨cause, isAbsence, absent⟩ | ⟨reason, broken⟩ | ⟨entry, found⟩
  · rw [lookup_of_absent absent isAbsence, lookup_of_absent absent isAbsence]
  · rw [lookup_of_abort broken, lookup_of_abort broken]
  · rw [lookup_of_resolve found, lookup_of_resolve found]

theorem read_eq_of_memory (memory memory' : Memory) (first size : UInt32) {room : Nat}
    (inside : room ≤ w.destination.size) :
    v.read memory room first size w = v.read memory' room first size w := by
  cases isCluster : Cluster.ofIndex first.toNat with
  | error reason => rw [read_of_no_cluster isCluster, read_of_no_cluster isCluster]
  | ok cluster =>
    rcases Nat.lt_or_ge room size.toNat with noRoom | fits
    · rw [read_of_no_room isCluster noRoom, read_of_no_room isCluster noRoom]
    · rw [read_of_walk isCluster fits inside, read_of_walk isCluster fits inside]

theorem load_eq_of_memory (memory memory' : Memory) (path : String) :
    v.load memory path w = v.load memory' path w := by
  cases resolved : v.resolve path with
  | error cause => exact (loadInto_of_missing resolved).trans (loadInto_of_missing resolved).symm
  | ok entry =>
    rw [load_of_resolve resolved, load_of_resolve resolved]
    apply restate_congr
    apply read_eq_of_memory
    exact Nat.le_of_eq (by rw [destination_searched])

theorem loadIfPresent_eq_of_memory (memory memory' : Memory) (path : String) :
    v.loadIfPresent memory path w = v.loadIfPresent memory' path w :=
  tolerateAbsence_congr (load_eq_of_memory memory memory' path)

/-- No operation minds the memory it works with. -/
theorem perform_eq_of_memory (memory memory' : Memory) (operation : Operation) :
    v.perform memory operation w = v.perform memory' operation w := by
  cases operation with
  | entries => rfl
  | lookup path => exact answered_congr (lookup_eq_of_memory memory memory' path)
  | read first size =>
    exact answered_congr (read_eq_of_memory memory memory' first size (Nat.le_refl _))
  | load path => exact answered_congr (load_eq_of_memory memory memory' path)
  | loadIfPresent path => exact answered_congr (loadIfPresent_eq_of_memory memory memory' path)

/-- No sequence of operations minds the memory it works with. -/
theorem performAll_eq_of_memory (memory memory' : Memory) (operations : List Operation) :
    v.performAll memory operations w = v.performAll memory' operations w := by
  induction operations generalizing w with
  | nil => rfl
  | cons operation rest ih =>
    simp only [performAll, perform_eq_of_memory memory memory' operation, ih]

/-! No fault. -/

theorem lookup_ne_fault {memory : Memory} {path : String} {cause : Fault} {w' : Workspace} :
    v.lookup memory path w ≠ .error (.fault cause) w' := by
  intro faulted
  obtain ⟨reason, -, same⟩ := lookup_eq_error_iff.mp (outcome_of_error faulted)
  cases same

theorem loadIfPresent_ne_fault {memory : Memory} {path : String} {cause : Fault} {w' : Workspace} :
    v.loadIfPresent memory path w ≠ .error (.fault cause) w' := by
  intro faulted
  rcases v.resolve_cases path with ⟨cause, isAbsence, absent⟩ | ⟨reason, broken⟩ | ⟨entry, found⟩
  · rw [loadIfPresent_of_absent absent isAbsence] at faulted
    cases faulted
  · rw [loadIfPresent_of_abort broken] at faulted
    cases faulted
  · rcases loadIfPresent_of_resolve memory w found with ⟨w₁, -, loaded⟩ | ⟨reason, w₁, -, loaded⟩
    · rw [loaded] at faulted
      cases faulted
    · rw [loaded] at faulted
      cases faulted

/-- A step that never faults gives no answer that says so. -/
theorem outcome_ne_fault {ε α : Type} {step : Loader ε α}
    (sound : ∀ cause w', step w ≠ .error (.fault cause) w') :
    ¬ ∃ cause, step.outcome w = .error (.fault cause) := by
  rintro ⟨cause, faulted⟩
  exact sound cause _ (eq_error_of_outcome faulted)

/-- No operation breaks off at a fault. -/
theorem perform_not_isFault (v : Volume) (memory : Memory) (operation : Operation) (w : Workspace) :
    ¬ (v.perform memory operation w).1.IsFault := by
  cases operation with
  | entries =>
    refine outcome_ne_fault fun cause w' faulted => ?_
    cases hasEntries : v.directory with
    | error reason =>
      rw [hasEntries] at faulted
      cases faulted
    | ok entries =>
      rw [hasEntries] at faulted
      cases faulted
  | lookup path => exact outcome_ne_fault fun cause w' => lookup_ne_fault
  | read first size =>
    refine outcome_ne_fault fun cause w' faulted => ?_
    obtain ⟨reason, same, -⟩ := readFailure_of_error faulted
    cases same
  | load path => exact outcome_ne_fault fun cause w' => load_ne_fault
  | loadIfPresent path => exact outcome_ne_fault fun cause w' => loadIfPresent_ne_fault

/-- No operation of a sequence breaks off at a fault. -/
theorem performAll_not_isFault (v : Volume) (memory : Memory) (operations : List Operation)
    (w : Workspace) : ∀ answer ∈ (v.performAll memory operations w).1, ¬ answer.IsFault := by
  induction operations generalizing w with
  | nil => exact fun answer member => absurd member List.not_mem_nil
  | cons operation rest ih =>
    exact List.forall_mem_cons.mpr ⟨v.perform_not_isFault memory operation w, ih _⟩

/-! Sessions. -/

theorem session_of_no_volume {memory : Memory} {image : Bytes} {settings : Settings}
    {operations : List Operation} {reason : Abort} (closed : ofImage image settings = .error reason) :
    session memory image settings operations w = .error (.failure reason) w :=
  bind_error (openImage_of_error closed)

theorem session_of_volume {memory : Memory} {image : Bytes} {settings : Settings}
    {operations : List Operation} (opened : ofImage image settings = .ok v) :
    session memory image settings operations w =
      .ok (v.performAll memory operations (w.logged (.volumeOpened v.parameters))).1
        (v.performAll memory operations (w.logged (.volumeOpened v.parameters))).2 :=
  bind_ok (openImage_of_ok opened)

/-- **Memories are interchangeable.** Whatever image a volume is opened in, and whatever operations
are performed on it, the primitives that clip give the same answers and leave the same destination
and the same log as those that insist on equal lengths. Neither has an occasion to show how it
differs from the other: the strict ones refuse a copy exactly if the lengths differ, and no
operation breaks off at a refusal; what a cluster supplies is as long as the stretch that it is
copied to; and both decide whether two stretches of any lengths hold the same bytes. -/
theorem session_eq_of_memory (image : Bytes) (settings : Settings) (operations : List Operation)
    (w : Workspace) :
    session .clipping image settings operations w = session .strict image settings operations w ∧
    (∀ answers w', session .strict image settings operations w = .ok answers w' →
      ∀ answer ∈ answers, ¬ answer.IsFault) ∧
    (∀ stop w', session .strict image settings operations w = .error stop w' →
      ∃ reason, stop = .failure reason) ∧
    (∀ target source, Memory.strict.copy target source = none ↔ target.size ≠ source.size) ∧
    (∀ v, ofImage image settings = .ok v → ∀ (first : UInt32) (size : UInt32), first.toNat < 65536 →
      ∀ visit ∈ (v.walk first.toNat size).supplied,
        (v.supply visit).size = visit.length.toNat) ∧
    ∀ a b, Memory.strict.equal a b = decide (a = b) ∧ Memory.clipping.equal a b = decide (a = b) := by
  refine ⟨?_, ?_, ?_, ?_, ?_, ?_⟩
  · cases opened : ofImage image settings with
    | error reason => rw [session_of_no_volume opened, session_of_no_volume opened]
    | ok v =>
      rw [session_of_volume opened, session_of_volume opened,
        performAll_eq_of_memory .clipping .strict]
  · intro answers w' ended
    cases opened : ofImage image settings with
    | error reason =>
      rw [session_of_no_volume opened] at ended
      cases ended
    | ok v =>
      rw [session_of_volume opened] at ended
      cases ended
      exact v.performAll_not_isFault .strict operations _
  · intro stop w' ended
    cases opened : ofImage image settings with
    | error reason =>
      rw [session_of_no_volume opened] at ended
      cases ended
      exact ⟨reason, rfl⟩
    | ok v =>
      rw [session_of_volume opened] at ended
      cases ended
  · intro target source
    simp only [Memory.strict, ite_eq_right_iff, reduceCtorEq, imp_false]
  · intro v _ first size small visit member
    exact size_supply_of_mem small member
  · intro a b
    constructor
    · rw [Bool.eq_iff_iff, Memory.strict.equal_iff, decide_eq_true_iff]
    · rw [Bool.eq_iff_iff, Memory.clipping.equal_iff, decide_eq_true_iff]

/-- A listing, a lookup, two reads of which the first fails, and two loads of which the second finds
no file. -/
def sampleOperations : List Operation :=
  [.entries, .lookup "A.B", .read 3 4, .read 2 4, .load "A.B", .loadIfPresent "A.C"]

/-- The operations are performed on the sample volume with either memory. -/
theorem session_sampleWithEntry :
    ∃ w', session .clipping sampleWithEntry.image sampleSettings sampleOperations
        (.start (Array.replicate 4 9)) =
      .ok [.entries (.ok [sampleEntry]), .lookup (.ok (some sampleEntry)),
        .read (.error (.failure (.badCluster 5))), .read (.ok 4), .load (.ok 4),
        .loadIfPresent (.ok false)] w' ∧ w'.destination = #[21, 22, 41, 42] := by
  have performed : (session .strict sampleWithEntry.image sampleSettings sampleOperations).outcome
      (.start (Array.replicate 4 9)) =
      .ok [.entries (.ok [sampleEntry]), .lookup (.ok (some sampleEntry)),
        .read (.error (.failure (.badCluster 5))), .read (.ok 4), .load (.ok 4),
        .loadIfPresent (.ok false)] := by decide +kernel
  have left : ((session .strict sampleWithEntry.image sampleSettings sampleOperations).after
      (.start (Array.replicate 4 9))).destination = #[21, 22, 41, 42] := by decide +kernel
  obtain ⟨same, -⟩ := session_eq_of_memory sampleWithEntry.image sampleSettings sampleOperations
    (.start (Array.replicate 4 9))
  exact ⟨_, same.trans (eq_ok_of_outcome performed), left⟩

end Volume

end BootDisk
