import BootDisk.Bytes

/-!
# Memory primitives

Copying and comparing stretches of bytes is left to the machine. Two sets of primitives exist. The
`strict` one copies only between stretches of one length. The `clipping` one copies as many bytes
as the shorter stretch has, and compares by looking for the first difference. Both keep what is
asked of every set: a copy between stretches of one length is exact, and so is every comparison.
-/

namespace BootDisk

/-- Bulk copy and comparison of bytes. Copying is settled only between stretches of one length. -/
structure Memory where
  /-- What `target` holds once `source` is copied into it, unless the lengths are refused. -/
  copy : (target source : Bytes) → Option Bytes
  /-- Whether two stretches hold the same bytes. -/
  equal : Bytes → Bytes → Bool
  copy_of_size_eq : ∀ {target source : Bytes}, target.size = source.size →
    copy target source = some source
  equal_iff : ∀ a b : Bytes, equal a b = true ↔ a = b

namespace Memory

/-- Primitives that insist on equal lengths when they copy. -/
def strict : Memory where
  copy target source := if target.size = source.size then some source else none
  equal a b := a == b
  copy_of_size_eq same := if_pos same
  equal_iff a b := by simp

/-- How two lists first differ: the order of the first unequal bytes, or none if one list runs out
before. -/
def firstDifference : List UInt8 → List UInt8 → Ordering
  | a :: as, b :: bs => (compare a b).then (firstDifference as bs)
  | _, _ => .eq

theorem firstDifference_eq_iff {a b : List UInt8} (same : a.length = b.length) :
    firstDifference a b = .eq ↔ a = b := by
  induction a generalizing b with
  | nil => cases b with
    | nil => simp [firstDifference]
    | cons => simp at same
  | cons x xs ih => cases b with
    | nil => simp at same
    | cons y ys =>
      simp only [List.length_cons, Nat.add_right_cancel_iff] at same
      simp [firstDifference, Ordering.then_eq_eq, ih same]

/-- Bytes that are written over all of a stretch replace it. -/
theorem overwrite_of_size_eq {target source : Bytes} (same : target.size = source.size) :
    target.overwrite 0 source = source := by
  apply Array.ext_getElem?
  intro i
  rw [Bytes.getElem?_overwrite]
  by_cases inside : i < source.size
  · rw [if_pos (by omega)]; simp
  · rw [if_neg (by omega)]
    simp [Nat.le_of_not_lt inside, same]

/-- Primitives that copy what fits and compare byte after byte. -/
def clipping : Memory where
  copy target source := some (target.overwrite 0 source)
  equal a b := a.size == b.size && firstDifference a.toList b.toList == .eq
  copy_of_size_eq same := congrArg some (overwrite_of_size_eq same)
  equal_iff a b := by
    simp only [Bool.and_eq_true, beq_iff_eq]
    constructor
    · rintro ⟨same, h⟩
      exact Array.toList_inj.mp ((firstDifference_eq_iff (by simpa using same)).mp h)
    · rintro rfl
      exact ⟨rfl, (firstDifference_eq_iff rfl).mpr rfl⟩

end Memory

end BootDisk
