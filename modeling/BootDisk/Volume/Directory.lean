import BootDisk.Loader
import BootDisk.Volume

/-!
# The root directory

The entries of a volume are those of its root directory region, which has to be inside the image
even if it is empty. `lookup` looks a path up: a path that is no short name is found nowhere, and no
record is looked at for it. The first entry that carries the name is the one found; its extension
is compared only if the name itself is the same.
-/

namespace BootDisk.Volume

variable (v : Volume) (memory : Memory)

/-- The entries of the root directory, in the order of their records. -/
def directory : Except Abort (List DirectoryEntry) :=
  match v.slice? v.layout.rootOffset v.layout.rootSize with
  | some region => .ok (DirectoryEntry.entries region.toArray)
  | none => .error (.outOfBounds v.layout.rootOffset.toNat v.layout.rootSize.toNat)

/-- The first of some entries that carries a name. -/
def firstNamed {ε : Type} (name : ShortName) :
    List DirectoryEntry → Loader ε (Option DirectoryEntry)
  | [] => return none
  | entry :: rest => do
    if ← Loader.equal memory entry.name.base.toArray name.base.toArray then
      if ← Loader.equal memory entry.name.extension.toArray name.extension.toArray then
        Loader.log (.entryFound entry)
        return some entry
    firstNamed name rest

/-- The entry of the root directory that carries a name. -/
def findNamed (name : ShortName) : Loader Abort (Option DirectoryEntry) := do
  let entries ← Loader.ofExcept v.directory
  firstNamed memory name entries

/-- The entry of the root directory that a path denotes. -/
def lookup (path : String) : Loader Abort (Option DirectoryEntry) :=
  match ShortName.ofPath? path with
  | some name => v.findNamed memory name
  | none => return none

end BootDisk.Volume
