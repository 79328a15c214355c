import BootDisk.Proofs.Bare.Access

/-!
# Checked numbers

Addresses and counts are words, and words wrap. A *checked* computation takes its sums, products and
differences of the numbers that the words stand for, and breaks off at an overrun if the result has
no word. So what it gives is exact by its type, and it gives something only if every number on the
way has a word. Here are the checked operations, each with the equation for the case that the words
compute the number, and the steps of a loader that may break off at an overrun.
-/

namespace BootDisk.Checked

/-- A number that must not come up. -/
inductive Overrun where
  /-- A number that has no word. -/
  | noWord (number : Nat)
  /-- A number was to be taken from a smaller one. -/
  | negative (minuend subtrahend : Nat)
  /-- A stretch of an image was asked for that ends too far out. -/
  | farOut (stop : Nat)
  deriving DecidableEq

/-- The word for a number. -/
def word (number : Nat) : Except Overrun { n : UInt64 // n.toNat = number } :=
  if fits : number < UInt64.size then .ok ⟨UInt64.ofNat number, UInt64.toNat_ofNat_of_lt' fits⟩
  else .error (.noWord number)

/-- The word of half the length for the number of a word. -/
def narrow (n : UInt64) : Except Overrun { m : UInt32 // m.toNat = n.toNat } :=
  if fits : n.toNat < UInt32.size then .ok ⟨UInt32.ofNat n.toNat, UInt32.toNat_ofNat_of_lt' fits⟩
  else .error (.noWord n.toNat)

/-- The sum of two words. -/
def sum (a b : UInt64) : Except Overrun { n : UInt64 // n.toNat = a.toNat + b.toNat } :=
  word (a.toNat + b.toNat)

/-- The product of two words. -/
def product (a b : UInt64) : Except Overrun { n : UInt64 // n.toNat = a.toNat * b.toNat } :=
  word (a.toNat * b.toNat)

/-- A word less another. -/
def difference (a b : UInt64) : Except Overrun { n : UInt64 // n.toNat + b.toNat = a.toNat } :=
  if le : b.toNat ≤ a.toNat then
    .ok ⟨a - b, by rw [UInt64.toNat_sub_of_le _ _ (UInt64.le_iff_toNat_le.mpr le)]; omega⟩
  else
    .error (.negative a.toNat b.toNat)

variable {a b n : UInt64}

theorem word_eq_ok {number : Nat} (exact : n.toNat = number) : word number = .ok ⟨n, exact⟩ := by
  subst exact
  rw [word, dif_pos n.toNat_lt_size]
  simp

theorem sum_eq_ok (exact : (a + b).toNat = a.toNat + b.toNat) : sum a b = .ok ⟨a + b, exact⟩ :=
  word_eq_ok exact

theorem product_eq_ok (exact : (a * b).toNat = a.toNat * b.toNat) :
    product a b = .ok ⟨a * b, exact⟩ :=
  word_eq_ok exact

theorem difference_eq_ok (exact : n.toNat + b.toNat = a.toNat) :
    difference a b = .ok ⟨n, exact⟩ := by
  have le : b ≤ a := UInt64.le_iff_toNat_le.mpr (by omega)
  have same : a - b = n := by
    rw [← UInt64.toNat_inj, UInt64.toNat_sub_of_le _ _ le]
    omega
  rw [difference, dif_pos (UInt64.le_iff_toNat_le.mp le)]
  simp only [same]

theorem narrow_eq_ok {m : UInt32} (exact : m.toNat = n.toNat) : narrow n = .ok ⟨m, exact⟩ := by
  have fits : n.toNat < UInt32.size := exact ▸ m.toNat_lt_size
  have same : UInt32.ofNat n.toNat = m := by rw [← exact, UInt32.ofNat_toNat]
  rw [narrow, dif_pos fits]
  simp only [same]

/-- Why a checked run breaks off. -/
inductive Reason where
  | overrun (cause : Overrun)
  | abort (reason : Abort)
  deriving DecidableEq

end BootDisk.Checked

namespace BootDisk.Loader

open Checked (Overrun Reason)

variable {ε ε' α β : Type}

/-- A checked computation, as a step. -/
def ofChecked : Except Overrun α → Loader Reason α
  | .ok a => pure a
  | .error cause => fail (.overrun cause)

/-- A checked computation without an overrun only gives its value. -/
@[simp]
theorem ofChecked_ok_bind (a : α) (next : α → Loader Reason β) :
    (ofChecked (.ok a) >>= next) = next a := rfl

variable {f : ε → ε'}

/-- A run gives a value with restated reasons only if it does without. -/
theorem eq_ok_of_restate {step : Loader ε α} {w w' : Workspace} {a : α}
    (h : step.restate f w = .ok a w') : step w = .ok a w' := by
  cases ended : step w with
  | ok b w₁ =>
    rw [restate_ok ended] at h
    cases h
    rfl
  | error stop w₁ =>
    rw [restate_error ended] at h
    cases h

/-! Restating the reasons of a run is restating those of its steps. -/

@[simp]
theorem restate_bind (step : Loader ε α) (next : α → Loader ε β) :
    (step >>= next).restate f = step.restate f >>= fun a => (next a).restate f := by
  funext w
  simp only [restate, EStateM.adaptExcept, bind, EStateM.bind]
  cases step w <;> rfl

@[simp]
theorem restate_pure (a : α) : (pure a : Loader ε α).restate f = pure a := rfl

@[simp]
theorem restate_log (event : Event) : (log event : Loader ε Unit).restate f = log event := rfl

/-- An access fails for no reason that could be restated. -/
@[simp]
theorem restate_ofAccess (access : Except Fault α) :
    (ofAccess access : Loader ε α).restate f = ofAccess access := by
  cases access <;> rfl

/-- Neither does a copy. -/
@[simp]
theorem restate_copy (memory : Memory) (limit position length : Nat) (source : Bytes) :
    (copy memory limit position length source : Loader ε Unit).restate f =
      copy memory limit position length source := by
  have looked : (get : Loader ε Workspace).restate f = get := rfl
  unfold copy
  rw [restate_bind, looked]
  refine bind_congr fun w => ?_
  cases w.destination.window? position length with
  | none => rfl
  | some target =>
    by_cases outside : limit < position + length
    · simp only [if_pos outside]
      rfl
    · simp only [if_neg outside]
      cases memory.copy target.toArray source <;> rfl

end BootDisk.Loader
