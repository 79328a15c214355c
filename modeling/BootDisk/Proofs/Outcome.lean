import BootDisk.Loader

/-!
# The outcome of a run

A run of a step comes to two things: an outcome, which is a value or why there is none, and the
workspace that is left. Steps of different types are compared by these.
-/

namespace BootDisk.Loader

variable {ε ε' α : Type} {step : Loader ε α} {w w' : Workspace}

/-- The value a run gives, or why it ended early. -/
def outcome (step : Loader ε α) (w : Workspace) : Except (Stop ε) α :=
  match step w with
  | .ok a _ => .ok a
  | .error stop _ => .error stop

/-- The workspace that a run leaves. -/
def after (step : Loader ε α) (w : Workspace) : Workspace :=
  match step w with
  | .ok _ w' => w'
  | .error _ w' => w'

theorem outcome_of_ok {a : α} (h : step w = .ok a w') : step.outcome w = .ok a := by
  rw [outcome, h]

theorem outcome_of_error {stop : Stop ε} (h : step w = .error stop w') :
    step.outcome w = .error stop := by
  rw [outcome, h]

theorem after_of_ok {a : α} (h : step w = .ok a w') : step.after w = w' := by
  rw [after, h]

theorem after_of_error {stop : Stop ε} (h : step w = .error stop w') : step.after w = w' := by
  rw [after, h]

/-- A run that gives a value is its outcome with the workspace it leaves. -/
theorem eq_ok_of_outcome {a : α} (h : step.outcome w = .ok a) : step w = .ok a (step.after w) := by
  unfold outcome at h
  unfold after
  cases ended : step w with
  | ok b w' =>
    rw [ended] at h
    cases h
    rfl
  | error stop w' =>
    rw [ended] at h
    cases h

/-- A run that ends early is its outcome with the workspace it leaves. -/
theorem eq_error_of_outcome {stop : Stop ε} (h : step.outcome w = .error stop) :
    step w = .error stop (step.after w) := by
  unfold outcome at h
  unfold after
  cases ended : step w with
  | ok b w' =>
    rw [ended] at h
    cases h
  | error stop' w' =>
    rw [ended] at h
    cases h
    rfl

theorem outcome_ofExcept (result : Except ε α) (w : Workspace) :
    (ofExcept result).outcome w = result.mapError .failure := by
  cases result <;> rfl

theorem mapError_eq_ok_iff {result : Except ε α} {a : α} :
    result.mapError Stop.failure = .ok a ↔ result = .ok a := by
  cases result with
  | ok b => exact ⟨fun same => by cases same; rfl, fun same => by cases same; rfl⟩
  | error reason => exact ⟨nofun, nofun⟩

theorem mapError_eq_error_iff {result : Except ε α} {stop : Stop ε} :
    result.mapError Stop.failure = .error stop ↔
      ∃ reason, result = .error reason ∧ stop = .failure reason := by
  cases result with
  | ok b => exact ⟨nofun, nofun⟩
  | error reason =>
    constructor
    · intro same
      cases same
      exact ⟨reason, rfl, rfl⟩
    · rintro ⟨_, same, rfl⟩
      cases same
      rfl

/-- Restating reasons leaves the workspace as it is. -/
theorem after_restate (f : ε → ε') (step : Loader ε α) (w : Workspace) :
    (step.restate f).after w = step.after w := by
  cases ended : step w with
  | ok a w' => rw [after_of_ok ended, after_of_ok (restate_ok ended)]
  | error stop w' => rw [after_of_error ended, after_of_error (restate_error ended)]

end BootDisk.Loader
