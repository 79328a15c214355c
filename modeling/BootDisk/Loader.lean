import BootDisk.Event
import BootDisk.Memory

/-!
# Loading steps

A loading step works on a `Workspace`: the destination it writes to, the log, and an account of the
memory primitives it called. A step may fail, and what was written and logged until then stays. A
failure carries a reason and is part of the loader's job; a `Fault` is none, it says that a step
broke the contract of the memory it works on.
-/

namespace BootDisk

/-- A broken contract of the memory. -/
inductive Fault where
  /-- The copy primitive refused stretches of these lengths. -/
  | unequalLengths (target source : Nat)
  /-- A copy would leave the part of the destination that it may write. -/
  | outsideDestination (position length : Nat)
  /-- No memory is mapped for a stretch. -/
  | unmapped (address : UInt64) (length : Nat)
  /-- The destination and the disk share memory. -/
  | overlapping (disk kernel : UInt64)
  /-- A byte at an index that does not exist was asked for. -/
  | indexOutside (index length : Nat)
  /-- A stretch that ends before it starts, or behind the end, was asked for. -/
  | stretchOutside (start stop length : Nat)
  /-- A number was to be taken from a smaller one. -/
  | underflow (minuend subtrahend : Nat)
  deriving DecidableEq

/-- Why a step ended early. -/
inductive Stop (ε : Type) where
  | failure (reason : ε)
  | fault (cause : Fault)
  deriving DecidableEq

/-- Restates the reason of a failure. -/
def Stop.map {ε ε' : Type} (f : ε → ε') : Stop ε → Stop ε'
  | failure reason => .failure (f reason)
  | fault cause => .fault cause

/-- What loading steps work on. -/
structure Workspace where
  /-- The memory that files are loaded into. -/
  destination : Bytes
  /-- What was logged, the oldest event first. -/
  log : Array Event
  /-- How often stretches were compared. -/
  comparisons : Nat
  /-- The length of the source of every copy, the oldest first. -/
  copies : Array Nat
  deriving DecidableEq

/-- A workspace before the first step. -/
def Workspace.start (destination : Bytes) : Workspace where
  destination := destination
  log := #[]
  comparisons := 0
  copies := #[]

/-- A loading step that gives an `α` or fails for an `ε`. -/
abbrev Loader (ε α : Type) := EStateM (Stop ε) Workspace α

namespace Loader

variable {ε ε' α : Type}

/-- A step behind one that succeeds starts from the workspace that is left. -/
theorem bind_ok {β : Type} {step : Loader ε α} {next : α → Loader ε β} {w w' : Workspace} {a : α}
    (h : step w = .ok a w') : (step >>= next) w = next a w' := by
  simp only [bind, EStateM.bind, h]

/-- No step is taken behind one that fails. -/
theorem bind_error {β : Type} {step : Loader ε α} {next : α → Loader ε β} {w w' : Workspace}
    {stop : Stop ε} (h : step w = .error stop w') : (step >>= next) w = .error stop w' := by
  simp only [bind, EStateM.bind, h]

/-- Fails for a reason. -/
def fail (reason : ε) : Loader ε α :=
  throw (.failure reason)

/-- Breaks off at a fault. -/
def fault (cause : Fault) : Loader ε α :=
  throw (.fault cause)

/-- A computation that needs no workspace, as a step. -/
def ofExcept : Except ε α → Loader ε α
  | .ok a => pure a
  | .error reason => fail reason

/-- Restates the reason a step fails for. -/
def restate (f : ε → ε') (step : Loader ε α) : Loader ε' α :=
  EStateM.adaptExcept (Stop.map f) step

/-- Goes on with `recover` where a step fails. A fault is passed on. -/
def orRecover (step : Loader ε α) (recover : ε → Loader ε' α) : Loader ε' α := fun w =>
  match step w with
  | .ok a w => .ok a w
  | .error (.failure reason) w => recover reason w
  | .error (.fault cause) w => .error (.fault cause) w

theorem restate_ok {f : ε → ε'} {step : Loader ε α} {w w' : Workspace} {a : α}
    (h : step w = .ok a w') : restate f step w = .ok a w' := by
  simp only [restate, EStateM.adaptExcept, h]

theorem restate_error {f : ε → ε'} {step : Loader ε α} {w w' : Workspace} {stop : Stop ε}
    (h : step w = .error stop w') : restate f step w = .error (stop.map f) w' := by
  simp only [restate, EStateM.adaptExcept, h]

theorem restate_failure {f : ε → ε'} {step : Loader ε α} {w w' : Workspace} {reason : ε}
    (h : step w = .error (.failure reason) w') :
    restate f step w = .error (.failure (f reason)) w' :=
  restate_error h

theorem restate_congr {f : ε → ε'} {step step' : Loader ε α} {w : Workspace}
    (same : step' w = step w) : restate f step' w = restate f step w := by
  simp only [restate, EStateM.adaptExcept, same]

theorem orRecover_ok {step : Loader ε α} {recover : ε → Loader ε' α} {w w' : Workspace} {a : α}
    (h : step w = .ok a w') : orRecover step recover w = .ok a w' := by
  simp only [orRecover, h]

theorem orRecover_failure {step : Loader ε α} {recover : ε → Loader ε' α} {w w' : Workspace}
    {reason : ε} (h : step w = .error (.failure reason) w') :
    orRecover step recover w = recover reason w' := by
  simp only [orRecover, h]

/-- Adds an event to the log. -/
def log (event : Event) : Loader ε Unit :=
  modify fun w => { w with log := w.log.push event }

/-- Adds events to the log, in order. -/
def logAll (events : Array Event) : Loader ε Unit :=
  modify fun w => { w with log := w.log ++ events }

@[simp]
theorem ofExcept_ok (a : α) (w : Workspace) : (ofExcept (.ok a) : Loader ε α) w = .ok a w := rfl

@[simp]
theorem ofExcept_error (reason : ε) (w : Workspace) :
    (ofExcept (.error reason) : Loader ε α) w = .error (.failure reason) w := rfl

@[simp]
theorem fail_eq (reason : ε) (w : Workspace) :
    (fail reason : Loader ε α) w = .error (.failure reason) w := rfl

@[simp]
theorem log_eq (event : Event) (w : Workspace) :
    (log event : Loader ε Unit) w = .ok () { w with log := w.log.push event } := rfl

@[simp]
theorem logAll_eq (events : Array Event) (w : Workspace) :
    (logAll events : Loader ε Unit) w = .ok () { w with log := w.log ++ events } := rfl

/-- Compares two stretches with the memory's primitive. -/
def equal (memory : Memory) (a b : Bytes) : Loader ε Bool := do
  modify fun w => { w with comparisons := w.comparisons + 1 }
  return memory.equal a b

/-- Copies `source` into the `length` bytes of the destination from `position` on, which have to be
among its first `limit` bytes. -/
def copy (memory : Memory) (limit position length : Nat) (source : Bytes) : Loader ε Unit := do
  let w ← get
  match w.destination.window? position length with
  | none => fault (.outsideDestination position length)
  | some target =>
    if limit < position + length then
      fault (.outsideDestination position length)
    else
      match memory.copy target.toArray source with
      | none => fault (.unequalLengths length source.size)
      | some copied =>
        modify fun w =>
          { w with
            destination := w.destination.overwrite position copied
            copies := w.copies.push source.size }

/-- A copy between stretches of one length that stays within its limit and the destination always
succeeds. -/
theorem copy_eq_ok {memory : Memory} {limit position length : Nat} {source : Bytes} {w : Workspace}
    (same : source.size = length) (inside : position + length ≤ limit)
    (room : limit ≤ w.destination.size) :
    (copy memory limit position length source : Loader ε Unit) w =
      .ok () { w with
        destination := w.destination.overwrite position source
        copies := w.copies.push source.size } := by
  have inDestination : (w.destination.window? position length).isSome :=
    Bytes.window?_isSome_iff.mpr (by omega)
  obtain ⟨target, found⟩ := Option.isSome_iff_exists.mp inDestination
  have copied : memory.copy target.toArray source = some source :=
    memory.copy_of_size_eq (target.size_toArray.trans same.symm)
  have looked : (get : Loader ε Workspace) w = .ok w w := rfl
  refine (bind_ok looked).trans ?_
  simp only [found, if_neg (show ¬ limit < position + length by omega), copied]
  rfl

end Loader

end BootDisk
