import BootDisk.Abort
import BootDisk.Bytes
import BootDisk.LittleEndian

/-!
# Boot parameters

The boot sector opens with a header that gives the shape of the volume: how long sectors are, how
many make a cluster, and how many sectors the boot area, the allocation tables and the root
directory take. It counts only if the sector carries its two-byte signature, so the signature is
looked at first and nothing else is read when it is wrong.
-/

namespace BootDisk

/-- The shape of a volume, as its boot sector gives it. -/
structure BootParameters where
  bytesPerSector : UInt16
  sectorsPerCluster : UInt8
  reservedSectors : UInt16
  tableCount : UInt8
  rootEntries : UInt16
  totalSectors : UInt16
  media : UInt8
  sectorsPerTable : UInt16
  deriving DecidableEq

namespace BootParameters

/-- How many bytes at the start of the boot sector the header takes. -/
def headerLength : Nat := 24

open LittleEndian in
/-- The fields of a header. -/
def decode (header : Vector UInt8 headerLength) : BootParameters where
  bytesPerSector := word16 header[11] header[12]
  sectorsPerCluster := header[13]
  reservedSectors := word16 header[14] header[15]
  tableCount := header[16]
  rootEntries := word16 header[17] header[18]
  totalSectors := word16 header[19] header[20]
  media := header[21]
  sectorsPerTable := word16 header[22] header[23]

/-- Fails unless the image carries `signature` at `offset`. -/
def requireSignature (image : Bytes) (offset : UInt64) (signature : UInt8 × UInt8) :
    Except Abort Unit :=
  match image.window? offset.toNat 2 with
  | none => .error (.outOfBounds offset.toNat 2)
  | some found =>
    if (found[0], found[1]) = signature then
      .ok ()
    else
      .error (.invalidSignature offset.toNat (found[0], found[1]))

/-- The boot parameters of an image that carries `signature` at `offset`. -/
def ofImage (image : Bytes) (offset : UInt64) (signature : UInt8 × UInt8) :
    Except Abort BootParameters := do
  requireSignature image offset signature
  match image.window? 0 headerLength with
  | none => .error (.outOfBounds 0 headerLength)
  | some header => .ok (decode header)

end BootParameters

end BootDisk
