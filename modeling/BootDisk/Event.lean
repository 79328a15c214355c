import BootDisk.Cluster
import BootDisk.Layout

/-!
# The log

What the loader does is told as a sequence of events. Each event has a level, and a reader chooses
the most verbose level to be shown. The text of an event is derived from it, so that the log can
be inspected as data.
-/

namespace BootDisk

/-- How verbose an event is. -/
inductive Level where
  | error
  | warn
  | info
  | debug
  | trace
  deriving DecidableEq

namespace Level

/-- The name of a level. -/
def name : Level → String
  | error => "ERROR"
  | warn => "WARN"
  | info => "INFO"
  | debug => "DEBUG"
  | trace => "TRACE"

/-- The place of a level, the least verbose first. -/
def verbosity : Level → Nat
  | error => 1
  | warn => 2
  | info => 3
  | debug => 4
  | trace => 5

end Level

/-- Something the loader did or found. -/
inductive Event where
  /-- The master boot record lists a first partition that starts at this sector. -/
  | partitionListed (sector : UInt32)
  /-- A volume of this shape was opened. -/
  | volumeOpened (parameters : BootParameters)
  /-- The root directory has an entry of the name that was looked for. -/
  | entryFound (entry : DirectoryEntry)
  /-- The table word of a cluster was read. -/
  | clusterVisited (cluster : Cluster) (offset : UInt64) (link : Link)
  /-- A file was not loaded, and the caller goes on without it. -/
  | fileSkipped (path : String) (cause : LoadError)
  /-- The kernel is about to be loaded. -/
  | kernelWanted
  /-- The kernel is about to be loaded from a mapped disk to an address. -/
  | bootStarted (disk kernel : UInt64)
  /-- The kernel was loaded. -/
  | kernelLoaded (path : String) (size : UInt32)
  /-- The kernel was not loaded. -/
  | kernelMissing (path : String) (cause : LoadError)
  /-- Nothing is done any more. -/
  | halted (cause : Abort)
  deriving DecidableEq

namespace Event

/-- The level of an event. -/
def level : Event → Level
  | kernelMissing .. | halted .. => .error
  | fileSkipped .. => .warn
  | kernelWanted | bootStarted .. | kernelLoaded .. => .info
  | partitionListed .. | volumeOpened .. | entryFound .. => .debug
  | clusterVisited .. => .trace

/-- The text of an event. -/
def text : Event → String
  | partitionListed sector => "First partition starts at LBA " ++ toString sector.toNat
  | volumeOpened parameters =>
    let layout := parameters.layout
    "FAT at " ++ Hexadecimal.number layout.tableOffset.toNat
      ++ ", root directory at " ++ Hexadecimal.number layout.rootOffset.toNat
      ++ " (" ++ toString parameters.rootEntries.toNat ++ " entries), data at "
      ++ Hexadecimal.number layout.dataOffset.toNat
      ++ ", " ++ toString layout.clusterSize.toNat ++ " bytes per cluster"
  | entryFound entry =>
    "Found " ++ entry.name.display ++ " at cluster " ++ toString entry.cluster.toNat
      ++ " (" ++ toString entry.size.toNat ++ " bytes)"
  | clusterVisited cluster offset link =>
    "Cluster " ++ toString cluster.index.toNat ++ " at " ++ Hexadecimal.number offset.toNat
      ++ " -> " ++ link.text
  | fileSkipped path cause => "Cannot load " ++ path ++ ": " ++ cause.text
  | kernelWanted => "Loading kernel ..."
  | bootStarted disk kernel =>
    "Loading kernel from disk at " ++ Hexadecimal.number disk.toNat
      ++ " to " ++ Hexadecimal.number kernel.toNat ++ " ..."
  | kernelLoaded path size => "Loaded " ++ path ++ " (" ++ toString size.toNat ++ " bytes)"
  | kernelMissing path cause => "Cannot load " ++ path ++ ": " ++ cause.text
  | halted cause => cause.diagnostic

/-- An event as a line of the log. -/
def line (event : Event) : String :=
  event.level.name ++ " " ++ event.text

/-- Whether an event is shown to a reader who wants nothing more verbose than `limit`, or nothing
at all. -/
def isShown (limit : Option Level) (event : Event) : Bool :=
  match limit with
  | none => false
  | some limit => event.level.verbosity ≤ limit.verbosity

end Event

end BootDisk
