import BootDisk.Volume.Directory

/-!
# Scanning the root directory

A scan compares entries with a name until one carries it. Its result is the first such entry, and
all it leaves behind is a line of the log and the count of its comparisons (`firstNamed_eq`).
-/

namespace BootDisk

open Loader

/-- A comparison of fields answers whether the bytes are the same, and is counted. -/
theorem Loader.equal_eq {ε : Type} {width : Nat} (memory : Memory) (a b : Vector UInt8 width)
    (w : Workspace) :
    (equal memory a.toArray b.toArray : Loader ε Bool) w =
      .ok (decide (a = b)) { w with comparisons := w.comparisons + 1 } := by
  have same : memory.equal a.toArray b.toArray = decide (a = b) := by
    rw [Bool.eq_iff_iff, memory.equal_iff, decide_eq_true_iff, Vector.toArray_inj]
  rw [← same]
  rfl

theorem ShortName.eq_iff {a b : ShortName} :
    a = b ↔ a.base = b.base ∧ a.extension = b.extension := by
  cases a
  cases b
  exact ShortName.mk.injEq .. ▸ Iff.rfl

namespace DirectoryEntry

/-- The first of some entries that carries a name. -/
def named? (name : ShortName) (entries : List DirectoryEntry) : Option DirectoryEntry :=
  entries.find? fun entry => entry.name = name

theorem named?_cons_of_eq {name : ShortName} {entry : DirectoryEntry} (rest : List DirectoryEntry)
    (same : entry.name = name) : named? name (entry :: rest) = some entry :=
  List.find?_cons_of_pos (decide_eq_true same)

theorem named?_cons_of_ne {name : ShortName} {entry : DirectoryEntry} (rest : List DirectoryEntry)
    (other : entry.name ≠ name) : named? name (entry :: rest) = named? name rest :=
  List.find?_cons_of_neg (by simpa using other)

/-- How many comparisons it takes to find the first entry that carries a name: one for each entry
looked at, and one more wherever the name is the same and the extension has to be compared. -/
def comparisonsFor (name : ShortName) : List DirectoryEntry → Nat
  | [] => 0
  | entry :: rest =>
    if entry.name.base = name.base then
      1 + if entry.name.extension = name.extension then 1 else 1 + comparisonsFor name rest
    else
      1 + comparisonsFor name rest

end DirectoryEntry

/-- The workspace after a scan. -/
def Workspace.scanned (name : ShortName) (entries : List DirectoryEntry) (w : Workspace) :
    Workspace :=
  { w with
    log := w.log ++ ((DirectoryEntry.named? name entries).map Event.entryFound).toArray
    comparisons := w.comparisons + DirectoryEntry.comparisonsFor name entries }

namespace Volume

variable {v : Volume} {memory : Memory}

/-- The scan finds the first entry that carries the name. -/
theorem firstNamed_eq {ε : Type} (name : ShortName) (entries : List DirectoryEntry)
    (w : Workspace) :
    (firstNamed memory name entries : Loader ε (Option DirectoryEntry)) w =
      .ok (DirectoryEntry.named? name entries) (w.scanned name entries) := by
  induction entries generalizing w with
  | nil => simp [firstNamed, Workspace.scanned, DirectoryEntry.named?, DirectoryEntry.comparisonsFor,
      pure, EStateM.pure]
  | cons entry rest ih =>
    rw [firstNamed]
    refine (bind_ok (equal_eq memory entry.name.base name.base w)).trans ?_
    by_cases sameBase : entry.name.base = name.base
    · rw [decide_eq_true sameBase]
      refine (bind_ok (equal_eq memory entry.name.extension name.extension _)).trans ?_
      by_cases sameExtension : entry.name.extension = name.extension
      · have same := ShortName.eq_iff.mpr ⟨sameBase, sameExtension⟩
        rw [decide_eq_true sameExtension]
        simp only [Workspace.scanned, DirectoryEntry.named?_cons_of_eq rest same,
          DirectoryEntry.comparisonsFor, if_pos sameBase, if_pos sameExtension, Nat.reduceAdd]
        rfl
      · have other : entry.name ≠ name := fun same => sameExtension (ShortName.eq_iff.mp same).2
        rw [decide_eq_false sameExtension]
        refine (ih _).trans ?_
        simp only [Workspace.scanned, DirectoryEntry.named?_cons_of_ne rest other,
          DirectoryEntry.comparisonsFor, if_pos sameBase, if_neg sameExtension, Nat.add_assoc]
    · have other : entry.name ≠ name := fun same => sameBase (ShortName.eq_iff.mp same).1
      rw [decide_eq_false sameBase]
      refine (ih _).trans ?_
      simp only [Workspace.scanned, DirectoryEntry.named?_cons_of_ne rest other,
        DirectoryEntry.comparisonsFor, if_neg sameBase, Nat.add_assoc]

theorem findNamed_of_no_directory {reason : Abort} (name : ShortName) (w : Workspace)
    (noDirectory : v.directory = .error reason) :
    v.findNamed memory name w = .error (.failure reason) w := by
  rw [findNamed, noDirectory]
  rfl

theorem findNamed_of_directory {entries : List DirectoryEntry} (name : ShortName) (w : Workspace)
    (hasEntries : v.directory = .ok entries) :
    v.findNamed memory name w =
      .ok (DirectoryEntry.named? name entries) (w.scanned name entries) := by
  rw [findNamed, hasEntries]
  exact (bind_ok (ofExcept_ok entries w)).trans (firstNamed_eq name entries w)

end Volume

end BootDisk
