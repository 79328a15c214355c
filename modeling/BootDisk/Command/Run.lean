import BootDisk.Command.Host
import BootDisk.Command.Listing
import BootDisk.Command.Request
import BootDisk.Partition
import BootDisk.Volume.Directory
import BootDisk.Volume.Open
import BootDisk.Volume.Walk

/-!
# Running the command

The command opens the volume of a disk image, shows its shape and its root directory, reads one
file and, if asked, writes the file. It stops at the first thing that goes wrong; what it printed
until then stays. The exit status is 0 if all went well and 1 otherwise.
-/

namespace BootDisk.Command

variable {m : Type → Type} [Monad m]

/-- A stage of a run, which an abort ends. -/
abbrev Stage (m : Type → Type) (α : Type) := ExceptT (Stop Abort) m α

namespace Stage

/-- A computation that needs no workspace, as a stage. -/
def ofExcept {α : Type} (result : Except Abort α) : Stage m α :=
  ExceptT.mk (pure (result.mapError .failure))

/-- A loading step as a stage. It starts in an empty workspace, and its log is not shown. -/
def ofLoader {α : Type} (step : Loader Abort α) : Stage m α :=
  ExceptT.mk <| pure <|
    match step (.start #[]) with
    | .ok a _ => .ok a
    | .error stop _ => .error stop

end Stage

/-- The line that reports why a run was aborted. -/
def stopLine : Stop Abort → String
  | .failure reason => reason.diagnostic
  | .fault _ => "broken memory contract"

/-- Writes a loaded file. Answers whether it was written. -/
def writeOutput (host : Host m) (path : String) (content : Bytes) : m Bool := do
  match ← host.writeFile path content with
  | .ok () =>
    host.print ("Wrote " ++ path)
    return true
  | .error error =>
    host.complain ("Cannot write " ++ path ++ ": " ++ error.message)
    return false

/-- Shows the volume of a disk and loads the requested file from it. Answers whether the file was
found and, if that was asked for, written. The file is read by its walk alone, and its bytes are
gathered only to be written, so that a damaged size takes no memory. To make a buffer of zeros as
long as the file and to load the file into it comes to the same, whatever is done if that load says
that there is no such file: `inspectInBuffer_eq`. -/
def inspect (host : Host m) (request : Request) (disk : Bytes) : Stage m Bool := do
  let partition ← Stage.ofLoader (Partition.ofDisk disk request.partition)
  let volume ← Stage.ofLoader (Volume.openImage partition.image Settings.standard)
  host.printAll (parameterLines volume)
  host.print directoryHeading
  let entries ← Stage.ofExcept volume.directory
  host.printAll (entryLines entries)
  match ← Stage.ofLoader (volume.lookup .strict request.file) with
  | none => return false
  | some entry =>
    let walk ← Stage.ofExcept (volume.walkEntry entry)
    host.print ("Loaded " ++ request.file ++ " (" ++ toString entry.size.toNat ++ " bytes)")
    match request.output with
    | none => return true
    | some path => ExceptT.lift (writeOutput host path (volume.gather walk))

/-- Runs the command under the name `program` and gives its exit status. -/
def run (host : Host m) (program : String) (arguments : List String) : m UInt32 := do
  match Request.ofArguments arguments with
  | .error error =>
    host.complain (error.message program)
    return 1
  | .ok request =>
    host.print ("Opening image: " ++ request.image)
    match ← host.readFile request.image with
    | .error error =>
      host.complain ("Cannot read " ++ request.image ++ ": " ++ error.message)
      return 1
    | .ok disk =>
      match ← (inspect host request disk).run with
      | .ok true => return 0
      | .ok false =>
        host.complain ("Cannot load " ++ request.file)
        return 1
      | .error stop =>
        host.complain (stopLine stop)
        return 1

end BootDisk.Command
