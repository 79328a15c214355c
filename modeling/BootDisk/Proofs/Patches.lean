import BootDisk.Bytes

/-!
# Patches

A patch writes some bytes at an offset. What a list of patches leaves at a position is settled by
the patches that cover the position: nothing changes where none does, and where all that do write
the same byte, that byte is left, in whatever order they come.
-/

namespace BootDisk

/-- Bytes and where they are written. -/
structure Patch where
  offset : Nat
  bytes : Bytes

namespace Patch

/-- Whether a patch writes at a position. -/
def Covers (patch : Patch) (i : Nat) : Prop :=
  patch.offset ≤ i ∧ i < patch.offset + patch.bytes.size

/-- The byte a patch writes at a position. -/
def byteAt? (patch : Patch) (i : Nat) : Option UInt8 :=
  patch.bytes[i - patch.offset]?

end Patch

namespace Bytes

/-- The bytes after patches, applied in order. -/
def patched (b : Bytes) (patches : List Patch) : Bytes :=
  patches.foldl (fun b patch => b.overwrite patch.offset patch.bytes) b

theorem patched_cons (b : Bytes) (patch : Patch) (patches : List Patch) :
    b.patched (patch :: patches) = (b.overwrite patch.offset patch.bytes).patched patches := rfl

@[simp]
theorem size_patched (b : Bytes) (patches : List Patch) : (b.patched patches).size = b.size := by
  induction patches generalizing b with
  | nil => rfl
  | cons patch patches ih => rw [patched_cons, ih, size_overwrite]

/-- Patches leave alone what none of them covers. -/
theorem getElem?_patched_of_not_covers {b : Bytes} {patches : List Patch} {i : Nat}
    (outside : ∀ patch ∈ patches, ¬ patch.Covers i) : (b.patched patches)[i]? = b[i]? := by
  induction patches generalizing b with
  | nil => rfl
  | cons patch patches ih =>
    have here := outside patch List.mem_cons_self
    rw [patched_cons, ih fun patch' member => outside patch' (List.mem_cons_of_mem patch member),
      getElem?_overwrite, if_neg fun covered => here ⟨covered.1, covered.2.1⟩]

/-- Where patches cover a position and all that do agree, they leave their byte there. -/
theorem getElem?_patched_of_covers {b : Bytes} {patches : List Patch} {i : Nat}
    {byte : Option UInt8} (inside : i < b.size) (covered : ∃ patch ∈ patches, patch.Covers i)
    (agree : ∀ patch ∈ patches, patch.Covers i → patch.byteAt? i = byte) :
    (b.patched patches)[i]? = byte := by
  induction patches generalizing b with
  | nil =>
    obtain ⟨patch, member, -⟩ := covered
    cases member
  | cons head patches ih =>
    rw [patched_cons]
    by_cases later : ∃ patch ∈ patches, patch.Covers i
    · exact ih (by rwa [size_overwrite]) later fun patch member =>
        agree patch (List.mem_cons_of_mem head member)
    · have covers : head.Covers i := by
        obtain ⟨patch, member, covers⟩ := covered
        rcases List.mem_cons.mp member with rfl | member
        · exact covers
        · exact absurd ⟨patch, member, covers⟩ later
      rw [getElem?_patched_of_not_covers fun patch member covers =>
        later ⟨patch, member, covers⟩, getElem?_overwrite,
        if_pos ⟨covers.1, covers.2, inside⟩]
      exact agree head List.mem_cons_self covers

end Bytes

end BootDisk
