import BootDisk.Settings

/-!
# Requests on the command line

The first argument names the disk image. After it, `--mbr` asks for the partition that the master
boot record lists, `--out` takes the next argument, whatever it is, as the place to write the file
to, and any other argument names the file to load. Of repeated ones the last counts.
-/

namespace BootDisk.Command

/-- What the command is asked to do. -/
structure Request where
  /-- Where the disk image is. -/
  image : String
  partition : PartitionLookup
  /-- The path of the file to load. -/
  file : String
  /-- Where to write the file, if it is to be written. -/
  output : Option String
  deriving DecidableEq

/-- Why arguments are no request. -/
inductive UsageError where
  /-- There is no argument. -/
  | noImage
  /-- The last argument is `--out`. -/
  | noOutputPath
  deriving DecidableEq

namespace UsageError

/-- What the user is told, given the name of the program. -/
def message (program : String) : UsageError → String
  | noImage => "Usage: " ++ program ++ " <disk_image> [FILE] [--mbr] [--out PATH]"
  | noOutputPath => "--out requires a path"

end UsageError

namespace Request

/-- The request for an image alone: its first byte starts the partition, and the file is the
standard kernel. -/
def forImage (image : String) : Request where
  image := image
  partition := .atOffset 0
  file := Settings.standard.kernelPath
  output := none

/-- A request changed by options, from left to right. -/
def withOptions (request : Request) : List String → Except UsageError Request
  | [] => .ok request
  | option :: rest =>
    if option = "--mbr" then
      withOptions { request with partition := .bootRecord } rest
    else if option = "--out" then
      match rest with
      | [] => .error .noOutputPath
      | path :: rest => withOptions { request with output := some path } rest
    else
      withOptions { request with file := option } rest

/-- The request that the arguments make. -/
def ofArguments : List String → Except UsageError Request
  | [] => .error .noImage
  | image :: options => (forImage image).withOptions options

end Request

end BootDisk.Command
