import BootDisk.Volume

/-!
# What the command shows of a volume

The lines that describe the shape of a volume, and one line for each entry of its root directory
that is a file or a directory.
-/

namespace BootDisk.Command

/-- The lines on the shape of a volume. -/
def parameterLines (v : Volume) : List String :=
  let p := v.parameters
  [ "--- BPB ---",
    "Bytes per sector    : " ++ toString p.bytesPerSector.toNat,
    "Sectors per cluster : " ++ toString p.sectorsPerCluster.toNat,
    "Reserved sectors    : " ++ toString p.reservedSectors.toNat,
    "Number of FATs      : " ++ toString p.tableCount.toNat,
    "Sectors per FAT     : " ++ toString p.sectorsPerTable.toNat,
    "Root entries        : " ++ toString p.rootEntries.toNat,
    "Data region         : " ++ Hexadecimal.number v.layout.dataOffset.toNat,
    "Signature           : OK" ]

/-- The line above the entries. -/
def directoryHeading : String :=
  "--- Root directory ---"

/-- A text followed by the spaces that make it at least `width` characters long. -/
def padRight (width : Nat) (text : String) : String :=
  text ++ String.ofList (List.replicate (width - text.length) ' ')

/-- Whether an entry is listed. The label of the volume is neither a file nor a directory. -/
def isListed (entry : DirectoryEntry) : Bool :=
  entry.isDirectory || !entry.isLabel

/-- The line on an entry. -/
def entryLine (entry : DirectoryEntry) : String :=
  (if entry.isDirectory then "DIR " else "FILE") ++ " " ++ padRight 12 entry.name.display
    ++ " (size: " ++ toString entry.size.toNat ++ " bytes, cluster: "
    ++ toString entry.cluster.toNat ++ ")"

/-- The lines on some entries, in their order. -/
def entryLines (entries : List DirectoryEntry) : List String :=
  (entries.filter isListed).map entryLine

end BootDisk.Command
