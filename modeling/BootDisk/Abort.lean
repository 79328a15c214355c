import BootDisk.Hexadecimal

/-!
# Aborts and load errors

An `Abort` is a condition nothing can be done about: the disk is corrupt, or a caller offered too
little room. A `LoadError` adds the absences a caller may tolerate. Each has one text, in which
numbers are decimal and offsets hexadecimal. A diagnostic shows where an abort was raised as well;
here places are normalised to one text.
-/

namespace BootDisk

/-- Why loading cannot go on. -/
inductive Abort where
  /-- The two bytes at `offset` are not the boot signature. -/
  | invalidSignature (offset : Nat) (found : UInt8 × UInt8)
  /-- No data cluster has this number. -/
  | invalidCluster (index : Nat)
  /-- A chain runs into a cluster that is marked bad. -/
  | badCluster (index : Nat)
  /-- A stretch of bytes that is not wholly inside the image was asked for. -/
  | outOfBounds (offset length : Nat)
  /-- The boot sector gives clusters no bytes. -/
  | emptyClusters
  /-- The destination has too little room. -/
  | destinationTooSmall (needed available : Nat)
  /-- The partition table has no first partition. -/
  | noPartition
  /-- The file that has to be loaded is absent. -/
  | fileNotLoaded (path : String)
  deriving DecidableEq

namespace Abort

/-- The text that names the condition. -/
def message : Abort → String
  | invalidSignature offset (first, second) =>
    "Invalid filesystem signature [" ++ Hexadecimal.byte first ++ ", " ++ Hexadecimal.byte second
      ++ "] at offset " ++ Hexadecimal.number offset
  | invalidCluster index => "Invalid cluster index " ++ toString index
  | badCluster index => "Bad cluster " ++ toString index
  | outOfBounds offset length =>
    "Access of " ++ toString length ++ " bytes at offset " ++ Hexadecimal.number offset
      ++ " is outside the image"
  | emptyClusters => "Cluster size is zero"
  | destinationTooSmall needed available =>
    "Destination holds " ++ toString available ++ " bytes but " ++ toString needed
      ++ " are required"
  | noPartition => "No partition found in the master boot record"
  | fileNotLoaded path => "Cannot load " ++ path

/-- What stands for the place in the program where an abort was raised. Places are normalised: every
diagnostic has this very text for its place, wherever the abort came up. -/
def site : String := "FILE:LINE"

/-- The diagnostic of an abort: the text for its place and what it is. -/
def diagnostic (abort : Abort) : String :=
  site ++ ": " ++ abort.message

/-- The diagnostic as a line of its own. -/
def line (abort : Abort) : String :=
  abort.diagnostic ++ "\n"

end Abort

/-- Why a file was not loaded. -/
inductive LoadError where
  | abort (cause : Abort)
  /-- The path is no short name, so no record can carry it. -/
  | unsupportedPath
  /-- No record of the root directory carries the name. -/
  | notFound
  /-- Fewer bytes were read than the file has. -/
  | truncated (expected read : Nat)
  deriving DecidableEq

namespace LoadError

/-- The text that names the condition; an abort keeps its own. -/
def message : LoadError → String
  | abort cause => cause.message
  | unsupportedPath => "path is not representable as an 8.3 name"
  | notFound => "file not found in the root directory"
  | truncated expected read =>
    "read " ++ toString read ++ " bytes but the file has " ++ toString expected

/-- The text shown to a reader of the log: an abort appears as its whole diagnostic. -/
def text : LoadError → String
  | abort cause => cause.diagnostic
  | error => error.message

end LoadError

end BootDisk
