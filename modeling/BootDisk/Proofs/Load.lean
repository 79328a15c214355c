import BootDisk.Proofs.Read
import BootDisk.Proofs.Scan
import BootDisk.Volume.Load

/-!
# Loading a file

A load ends early if its path is no short name, if the directory is not all there, or if no entry
carries the name. Otherwise it is the read of the entry that was found (`loadInto_of_entry`); since
a read that succeeds is complete, no file is ever loaded in part.
-/

namespace BootDisk.Volume

open Loader

variable {v : Volume} {memory : Memory} {room : DirectoryEntry → Loader LoadError Nat}
  {path : String} {name : ShortName} {entries : List DirectoryEntry} {w : Workspace}

theorem wholeRoom_eq (entry : DirectoryEntry) (w : Workspace) :
    wholeRoom entry w = .ok w.destination.size w := rfl

theorem exactRoom_of_lt {entry : DirectoryEntry} (small : w.destination.size < entry.size.toNat) :
    exactRoom entry w = .error (.fault (.outsideDestination 0 entry.size.toNat)) w := by
  have looked : (get : Loader LoadError Workspace) w = .ok w w := rfl
  refine (bind_ok looked).trans ?_
  rw [if_pos small]
  rfl

theorem exactRoom_of_le {entry : DirectoryEntry} (fits : entry.size.toNat ≤ w.destination.size) :
    exactRoom entry w = .ok entry.size.toNat w := by
  have looked : (get : Loader LoadError Workspace) w = .ok w w := rfl
  refine (bind_ok looked).trans ?_
  rw [if_neg (Nat.not_lt.mpr fits)]
  rfl

theorem loadInto_of_no_name (noName : ShortName.ofPath? path = none) :
    v.loadInto memory room path w = .error (.failure .unsupportedPath) w := by
  rw [loadInto, noName]
  rfl

theorem loadInto_of_no_directory {reason : Abort} (isName : ShortName.ofPath? path = some name)
    (noDirectory : v.directory = .error reason) :
    v.loadInto memory room path w = .error (.failure (.abort reason)) w := by
  rw [loadInto, isName]
  exact bind_error (restate_failure (findNamed_of_no_directory name w noDirectory))

theorem loadInto_of_absent (isName : ShortName.ofPath? path = some name)
    (hasEntries : v.directory = .ok entries) (absent : DirectoryEntry.named? name entries = none) :
    v.loadInto memory room path w = .error (.failure .notFound) (w.scanned name entries) := by
  have searched : v.findNamed memory name w = _ := findNamed_of_directory name w hasEntries
  rw [loadInto, isName]
  refine (bind_ok (restate_ok searched)).trans ?_
  rw [absent]
  rfl

/-- A load whose room cannot be settled ends there. -/
theorem loadInto_of_no_room {entry : DirectoryEntry} {stop : Stop LoadError} {w' : Workspace}
    (isName : ShortName.ofPath? path = some name) (hasEntries : v.directory = .ok entries)
    (found : DirectoryEntry.named? name entries = some entry)
    (noRoom : room entry (w.scanned name entries) = .error stop w') :
    v.loadInto memory room path w = .error stop w' := by
  have searched : v.findNamed memory name w = _ := findNamed_of_directory name w hasEntries
  rw [loadInto, isName]
  refine (bind_ok (restate_ok searched)).trans ?_
  rw [found]
  exact bind_error noRoom

/-- A load that finds an entry is the read of the entry into the room there is for it. -/
theorem loadInto_of_entry {entry : DirectoryEntry} {size : Nat}
    (isName : ShortName.ofPath? path = some name) (hasEntries : v.directory = .ok entries)
    (found : DirectoryEntry.named? name entries = some entry)
    (hasRoom : room entry (w.scanned name entries) = .ok size (w.scanned name entries))
    (inside : size ≤ w.destination.size) :
    v.loadInto memory room path w =
      (v.read memory size entry.cluster.toUInt32 entry.size).restate .abort
        (w.scanned name entries) := by
  have searched : v.findNamed memory name w = _ := findNamed_of_directory name w hasEntries
  rw [loadInto, isName]
  refine (bind_ok (restate_ok searched)).trans ?_
  rw [found]
  refine (bind_ok hasRoom).trans ?_
  cases ended : v.read memory size entry.cluster.toUInt32 entry.size (w.scanned name entries) with
  | ok n w' =>
    obtain ⟨-, -, -, rfl, -⟩ := eq_of_read_eq_ok (by exact inside) ended
    refine (bind_ok (restate_ok ended)).trans ?_
    rw [if_pos rfl, restate_ok ended]
    rfl
  | error stop w' =>
    rw [restate_error ended]
    exact bind_error (restate_error ended)

end BootDisk.Volume
