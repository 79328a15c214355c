/-!
# Byte strings

Disk images and destinations are byte strings. They are read through *windows*: `window?` is the
only way to look at a stretch of bytes, and a stretch that is not wholly inside has no window at
all, neither a shorter one nor one filled up. Writing goes through `overwrite`, which keeps the
length of its target and every byte past the end of what it writes.
-/

namespace BootDisk

/-- A byte string: a disk image, a stretch of memory, the content of a file. -/
abbrev Bytes := Array UInt8

namespace Bytes

/-- `length` bytes of `b` from `offset` on, if all of them are inside. -/
def window? (b : Bytes) (offset length : Nat) : Option (Vector UInt8 length) :=
  if inside : offset + length ≤ b.size then
    some ⟨b.extract offset (offset + length), by simp; omega⟩
  else
    none

theorem window?_isSome_iff {b : Bytes} {offset length : Nat} :
    (b.window? offset length).isSome ↔ offset + length ≤ b.size := by
  unfold window?; split <;> simp_all

theorem window?_eq_none_iff {b : Bytes} {offset length : Nat} :
    b.window? offset length = none ↔ b.size < offset + length := by
  unfold window?; split <;> simp_all

/-- A window shows the bytes of its own positions. -/
theorem getElem_of_window? {b : Bytes} {offset length i : Nat} {w : Vector UInt8 length}
    (h : b.window? offset length = some w) (hi : i < length) :
    b[offset + i]? = some w[i] := by
  unfold window? at h
  split at h
  · cases h
    have bound : offset + i < b.size := by omega
    simp [bound]
  · cases h

/-- Writes the bytes of `source`, first to last, from `position` on. -/
def overwriteFrom (source : Bytes) (next position : Nat) (b : Bytes) : Bytes :=
  if h : next < source.size then
    overwriteFrom source (next + 1) (position + 1) (b.setIfInBounds position source[next])
  else
    b
termination_by source.size - next

/-- `b` with the bytes of `source` in place of its own from `offset` on. What would fall past the
end of `b` is dropped. -/
def overwrite (b : Bytes) (offset : Nat) (source : Bytes) : Bytes :=
  overwriteFrom source 0 offset b

theorem size_overwriteFrom (source : Bytes) (next position : Nat) (b : Bytes) :
    (overwriteFrom source next position b).size = b.size := by
  induction h : source.size - next generalizing next position b with
  | zero => rw [overwriteFrom, dif_neg (by omega)]
  | succ k ih =>
    rw [overwriteFrom, dif_pos (by omega), ih _ _ _ (by omega), Array.size_setIfInBounds]

@[simp]
theorem size_overwrite (b : Bytes) (offset : Nat) (source : Bytes) :
    (b.overwrite offset source).size = b.size :=
  size_overwriteFrom source 0 offset b

theorem getElem?_overwriteFrom (source : Bytes) (next position : Nat) (b : Bytes) (i : Nat) :
    (overwriteFrom source next position b)[i]? =
      if position ≤ i ∧ i < position + (source.size - next) ∧ i < b.size then
        source[next + (i - position)]?
      else
        b[i]? := by
  induction h : source.size - next generalizing next position b with
  | zero => rw [overwriteFrom, dif_neg (by omega), if_neg (by omega)]
  | succ k ih =>
    rw [overwriteFrom, dif_pos (by omega), ih _ _ _ (by omega), Array.size_setIfInBounds]
    by_cases here : i = position
    · subst here
      by_cases inside : i < b.size
      · rw [if_neg (by omega), if_pos (by omega)]
        simp [inside, show next < source.size by omega]
      · rw [if_neg (by omega), if_neg (by omega)]
        simp [inside]
    · by_cases later : position + 1 ≤ i ∧ i < position + 1 + k ∧ i < b.size
      · rw [if_pos later, if_pos (by omega)]
        congr 1; omega
      · rw [if_neg later, if_neg (by omega), Array.getElem?_setIfInBounds_ne (by omega)]

/-- After `overwrite` a position inside the written stretch shows the source, any other position
what it showed before. -/
theorem getElem?_overwrite (b : Bytes) (offset : Nat) (source : Bytes) (i : Nat) :
    (b.overwrite offset source)[i]? =
      if offset ≤ i ∧ i < offset + source.size ∧ i < b.size then
        source[i - offset]?
      else
        b[i]? := by
  simpa [overwrite] using getElem?_overwriteFrom source 0 offset b i

@[simp]
theorem overwrite_empty (b : Bytes) (offset : Nat) : b.overwrite offset #[] = b := by
  rw [overwrite, overwriteFrom, dif_neg (by simp)]

/-- What is written at the start stands in front of what is left. -/
theorem overwrite_zero {b source : Bytes} (fits : source.size ≤ b.size) :
    b.overwrite 0 source = source ++ b.extract source.size := by
  apply Array.ext_getElem?
  intro i
  rw [getElem?_overwrite]
  by_cases inside : i < source.size
  · rw [if_pos (by omega), Array.getElem?_append_left inside, Nat.sub_zero]
  · rw [if_neg (by omega), Array.getElem?_append_right (by omega), Array.getElem?_extract]
    by_cases within : i < b.size
    · rw [if_pos (by omega)]
      congr 1
      omega
    · rw [if_neg (by omega), Array.getElem?_eq_none (by omega)]

/-- Writing one stretch behind another is writing both at once. -/
theorem overwrite_overwrite (b : Bytes) (offset : Nat) (first second : Bytes) :
    (b.overwrite offset first).overwrite (offset + first.size) second =
      b.overwrite offset (first ++ second) := by
  apply Array.ext_getElem?
  intro i
  rw [getElem?_overwrite, getElem?_overwrite, getElem?_overwrite, size_overwrite, Array.size_append]
  by_cases inFirst : offset ≤ i ∧ i < offset + first.size ∧ i < b.size
  · rw [if_neg (by omega), if_pos inFirst, if_pos (by omega),
      Array.getElem?_append_left (by omega)]
  · by_cases inSecond : offset + first.size ≤ i ∧ i < offset + first.size + second.size ∧ i < b.size
    · rw [if_pos inSecond, if_pos (by omega), Array.getElem?_append_right (by omega)]
      congr 1
      omega
    · rw [if_neg inSecond, if_neg inFirst, if_neg (by omega)]

end Bytes

end BootDisk
