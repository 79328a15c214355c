import BootDisk.Loader
import BootDisk.Volume.Walk

/-!
# Reading a chain into the destination

`read` walks a chain and copies what its clusters supply into the destination, one copy for each
cluster and one stretch after the other. It checks the first cluster and the room in the
destination before it looks at the chain. If the walk breaks off, the bytes of the clusters in
front of the failure are in the destination all the same.
-/

namespace BootDisk.Volume

variable (v : Volume) (memory : Memory)

/-- Copies what visited clusters supply to `position` and on, within the first `limit` bytes of the
destination. Gives the position behind the last byte. -/
def copySupplies (limit : Nat) : (position : Nat) → List Visit → Loader Abort Nat
  | position, [] => return position
  | position, visit :: rest => do
    Loader.copy memory limit position visit.length.toNat (v.supply visit)
    copySupplies limit (position + visit.length.toNat) rest

/-- Reads `size` bytes of the chain that starts at `first` into a destination that has room for
`room` bytes. Gives the number of bytes read. -/
def read (room : Nat) (first size : UInt32) : Loader Abort UInt32 := do
  let _ ← Loader.ofExcept (Cluster.ofIndex first.toNat)
  if room < size.toNat then
    Loader.fail (.destinationTooSmall size.toNat room)
  let walk := v.walk first.toNat size
  Loader.logAll (walk.visits.map fun visit =>
    .clusterVisited visit.cluster visit.offset visit.link)
  let position ← v.copySupplies memory size.toNat 0 walk.supplied.toList
  match walk.failure? with
  | some reason => Loader.fail reason
  | none => return UInt32.ofNat position

end BootDisk.Volume
