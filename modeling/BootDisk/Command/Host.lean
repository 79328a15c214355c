import BootDisk.Bytes

/-!
# What the command needs of its surroundings

The command prints lines, complains in lines, and reads and writes whole files. A file that cannot
be read or written gives a `FileError`, whose text is the one the operating system has for it.
-/

namespace BootDisk.Command

/-- Why a file was not read or written. -/
inductive FileError where
  | missing
  | notDirectory
  | isDirectory
  | nameTooLong
  /-- Anything else, with the number and the text that the system gives. -/
  | other (code : Nat) (text : String)
  deriving DecidableEq

namespace FileError

/-- The error that the system gives a number and a text. -/
def ofSystem (code : Nat) (text : String) : FileError :=
  match code with
  | 2 => missing
  | 20 => notDirectory
  | 21 => isDirectory
  | 36 => nameTooLong
  | _ => other code text

/-- The number the system has for the error. -/
def code : FileError → Nat
  | missing => 2
  | notDirectory => 20
  | isDirectory => 21
  | nameTooLong => 36
  | other code _ => code

/-- The text the system has for the error. -/
def text : FileError → String
  | missing => "No such file or directory"
  | notDirectory => "Not a directory"
  | isDirectory => "Is a directory"
  | nameTooLong => "File name too long"
  | other _ text => text

/-- What the user is told. -/
def message (error : FileError) : String :=
  error.text ++ " (os error " ++ toString error.code ++ ")"

end FileError

/-- The effects of the command. -/
structure Host (m : Type → Type) where
  /-- Prints a line. -/
  print : String → m Unit
  /-- Prints a line among the errors. -/
  complain : String → m Unit
  /-- Reads a whole file. -/
  readFile : String → m (Except FileError Bytes)
  /-- Replaces a whole file, or leaves all as it is. -/
  writeFile : String → Bytes → m (Except FileError Unit)

/-- Prints lines, in order. -/
def Host.printAll {m : Type → Type} [Monad m] (host : Host m) (lines : List String) : m Unit :=
  lines.forM host.print

end BootDisk.Command
