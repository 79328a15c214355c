import BootDisk.Partition
import BootDisk.Volume.Load
import BootDisk.Volume.Open

/-!
# Loading the kernel

The kernel is a file like any other, except that the loader cannot go on without it: its absence is
an abort too. `load` loads it from a disk in memory into the destination.
-/

namespace BootDisk.Kernel

/-- Settles an attempt to load the kernel: whatever kept it from being loaded is an abort. -/
def settle (settings : Settings) (attempt : Loader LoadError UInt32) : Loader Abort UInt32 :=
  (do
    let size ← attempt
    Loader.log (.kernelLoaded settings.kernelPath size)
    return size : Loader LoadError UInt32).orRecover fun
    | .abort reason => Loader.fail reason
    | reason => do
      Loader.log (.kernelMissing settings.kernelPath reason)
      Loader.fail (.fileNotLoaded settings.kernelPath)

/-- Finds the volume on a disk and loads the kernel from it. -/
def loadFrom (settings : Settings) (disk : Bytes)
    (attempt : Volume → Loader LoadError UInt32) : Loader Abort UInt32 := do
  let partition ← Partition.ofDisk disk settings.partition
  let volume ← Volume.openImage partition.image settings
  settle settings (attempt volume)

/-- Loads the kernel from a disk into the destination. Gives its size. -/
def load (settings : Settings) (disk : Bytes) : Loader Abort UInt32 := do
  Loader.log .kernelWanted
  loadFrom settings disk fun volume => volume.load .strict settings.kernelPath

end BootDisk.Kernel
