import BootDisk.Volume.Directory
import BootDisk.Volume.Read

/-!
# Loading files

A file is loaded by looking up its entry and reading the chain of the entry. The destination either
has the room it has (`load`), or is taken to be exactly as long as the file (`loadExactly`), as
memory at a given address is. The `…IfPresent` forms tolerate a file that is absent: they log why
and answer `false`. They pass every abort on.
-/

namespace BootDisk.Volume

variable (v : Volume) (memory : Memory)

/-- Loads a file. The room for it is settled once its entry is known. -/
def loadInto (room : DirectoryEntry → Loader LoadError Nat) (path : String) :
    Loader LoadError UInt32 := do
  match ShortName.ofPath? path with
  | none => Loader.fail .unsupportedPath
  | some name =>
    match ← (v.findNamed memory name).restate .abort with
    | none => Loader.fail .notFound
    | some entry =>
      let room ← room entry
      let read ← (v.read memory room entry.cluster.toUInt32 entry.size).restate .abort
      if read = entry.size then
        return read
      else
        Loader.fail (.truncated entry.size.toNat read.toNat)

/-- The room of the destination as it is. -/
def wholeRoom (_ : DirectoryEntry) : Loader LoadError Nat :=
  return (← get).destination.size

/-- Exactly the room that the file needs, which the destination has to have. -/
def exactRoom (entry : DirectoryEntry) : Loader LoadError Nat := do
  if (← get).destination.size < entry.size.toNat then
    Loader.fault (.outsideDestination 0 entry.size.toNat)
  return entry.size.toNat

/-- Loads a file into the destination. Gives its size. -/
def load (path : String) : Loader LoadError UInt32 :=
  v.loadInto memory wholeRoom path

/-- Loads a file into a destination that counts as exactly as long as the file. -/
def loadExactly (path : String) : Loader LoadError UInt32 :=
  v.loadInto memory exactRoom path

/-- Makes sure that the destination has room for the file a path denotes, as a caller of
`loadExactly` has to. The lookup is not logged, and whatever it fails for is left to the load. -/
def checkRoom {ε : Type} (path : String) : Loader ε Unit := fun w =>
  match v.lookup memory path w with
  | .ok (some entry) found =>
    if w.destination.size < entry.size.toNat then
      .error (.fault (.outsideDestination 0 entry.size.toNat)) { found with log := w.log }
    else
      .ok () { found with log := w.log }
  | .ok none found | .error (.failure _) found => .ok () { found with log := w.log }
  | .error (.fault cause) found => .error (.fault cause) found

/-- Tolerates an absent file: says in the log why it is skipped, and answers whether it was
loaded. -/
def tolerateAbsence (path : String) (step : Loader LoadError UInt32) : Loader Abort Bool :=
  (do let _ ← step; return true : Loader LoadError Bool).orRecover fun
    | .abort reason => Loader.fail reason
    | reason => do
      Loader.log (.fileSkipped path reason)
      return false

/-- Loads a file if it is present. -/
def loadIfPresent (path : String) : Loader Abort Bool :=
  tolerateAbsence path (v.load memory path)

/-- Loads a file if it is present, into a destination that counts as exactly as long. -/
def loadExactlyIfPresent (path : String) : Loader Abort Bool :=
  tolerateAbsence path (v.loadExactly memory path)

end BootDisk.Volume
