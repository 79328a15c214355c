/-!
# Settings of the boot loader

Where the disk is, where its partition starts, which file is the kernel and where it goes. The
standard settings describe the machine the loader is built for. A `Change` replaces some of them and
leaves the rest.
-/

namespace BootDisk

/-- How the partition is found on the disk. -/
inductive PartitionLookup where
  /-- It starts at a known byte offset. -/
  | atOffset (offset : UInt64)
  /-- It is the first one the master boot record lists. -/
  | bootRecord
  deriving DecidableEq

/-- The settings a load runs under. Offsets of the signature are relative to the partition. -/
structure Settings where
  diskBase : UInt64
  diskSize : UInt64
  partition : PartitionLookup
  kernelPath : String
  kernelAddress : UInt64
  signatureOffset : UInt64
  signature : UInt8 × UInt8
  deriving DecidableEq

namespace Settings

/-- The disk is mapped below the kernel and takes all the room up to it. -/
def standard : Settings where
  diskBase := 0x1000000
  diskSize := 0x7400000 - 0x1000000
  partition := .atOffset 0x7E00
  kernelPath := "KERNEL.BIN"
  kernelAddress := 0x7400000
  signatureOffset := 0x1FE
  signature := (0x55, 0xAA)

/-- A change of the settings. Where the disk is and how long it is go together. -/
inductive Change where
  | partition (lookup : PartitionLookup)
  | kernelPath (path : String)
  | disk (base size : UInt64)
  | kernelAddress (address : UInt64)
  deriving DecidableEq

/-- The settings after a change. -/
def change (settings : Settings) : Change → Settings
  | .partition lookup => { settings with partition := lookup }
  | .kernelPath path => { settings with kernelPath := path }
  | .disk base size => { settings with diskBase := base, diskSize := size }
  | .kernelAddress address => { settings with kernelAddress := address }

/-- In the standard settings the disk ends where the kernel begins. -/
theorem standard_disk_end :
    standard.diskBase.toNat + standard.diskSize.toNat = standard.kernelAddress.toNat := by
  decide

end Settings

end BootDisk
