import BootDisk.Loader
import BootDisk.Volume

/-!
# Opening a volume

Opening a volume checks its image and notes in the log where its regions are.
-/

namespace BootDisk.Volume

/-- Opens the volume in an image. -/
def openImage (image : Bytes) (settings : Settings) : Loader Abort Volume := do
  let volume ← Loader.ofExcept (ofImage image settings)
  Loader.log (.volumeOpened volume.parameters)
  return volume

end BootDisk.Volume
