import BootDisk.Command.Run

/-!
# The program

The command with the effects of the machine it runs on.
-/

namespace BootDisk

open Command

/-- The number of an error. It may be given negated, as a word. -/
def errorNumber (code : UInt32) : Nat :=
  if code < 0x80000000 then code.toNat else (-code).toNat

/-- The error that kept a file from being read or written. -/
def fileError : IO.Error → FileError
  | .otherError code text | .resourceBusy code text | .resourceVanished code text
  | .unsupportedOperation code text | .hardwareFault code text
  | .unsatisfiedConstraints code text | .illegalOperation code text | .protocolError code text
  | .timeExpired code text | .interrupted _ code text | .noFileOrDirectory _ code text
  | .alreadyExists _ code text | .invalidArgument _ code text | .permissionDenied _ code text
  | .resourceExhausted _ code text | .inappropriateType _ code text | .noSuchThing _ code text =>
    .ofSystem (errorNumber code) text
  | error => .other 5 (toString error)

/-- Settles an access to a file. -/
def attempt {α : Type} (access : IO α) : IO (Except FileError α) := do
  try
    return .ok (← access)
  catch error =>
    return .error (fileError error)

/-- The effects of the command on the machine it runs on. -/
def machineHost : Host IO where
  print line := IO.println line
  complain line := IO.eprintln line
  readFile path := attempt do
    let content ← IO.FS.readBinFile path
    return content.data
  writeFile path content := attempt (IO.FS.writeBinFile path ⟨content⟩)

end BootDisk

/-- Runs the command with the arguments of the process. -/
def main (arguments : List String) : IO UInt32 :=
  BootDisk.Command.run BootDisk.machineHost "bootdisk" arguments
