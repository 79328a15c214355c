import BootDisk.Partition
import BootDisk.Proofs.Bare.Access
import BootDisk.Volume.Open
import Mathlib.Algebra.Group.Nat.Defs

/-!
# A volume with bare accesses

The first bytes that are taken from a disk are those of the partition table, of the signature and of
the header. Each is taken from a stretch that was found before, and the stretch is long enough. For
the signature this needs that the disk is shorter than any address: the end of its stretch is cut
off at the last word, and only on a longer disk would there be a stretch that was cut. All other
bytes come from views of the image.
-/

namespace BootDisk.Bare

open Loader

variable {image disk : Bytes} {offset : UInt64} {signature : UInt8 × UInt8}

/-- Where the two bytes at an offset end. The sum stays at the last word if it would leave it. -/
def signatureEnd (offset : UInt64) : Nat :=
  min (offset.toNat + 2) (2 ^ 64 - 1)

/-- Fails unless the image carries `signature` at `offset`. -/
def requireSignature (image : Bytes) (offset : UInt64) (signature : UInt8 × UInt8) :
    Loader Abort Unit :=
  match stretch? image offset.toNat (signatureEnd offset) with
  | none => fail (.outOfBounds offset.toNat 2)
  | some found => do
    let first ← ofAccess (byteAt found 0)
    let second ← ofAccess (byteAt found 1)
    if (first, second) = signature then
      return ()
    else
      fail (.invalidSignature offset.toNat (first, second))

/-- The fields of a header. -/
def header (raw : Bytes) : Except Fault BootParameters := do
  return {
    bytesPerSector := ← word16At raw 11 13
    sectorsPerCluster := ← byteAt raw 13
    reservedSectors := ← word16At raw 14 16
    tableCount := ← byteAt raw 16
    rootEntries := ← word16At raw 17 19
    totalSectors := ← word16At raw 19 21
    media := ← byteAt raw 21
    sectorsPerTable := ← word16At raw 22 24 }

/-- Opens the volume in an image. -/
def openImage (image : Bytes) (settings : Settings) : Loader Abort Volume := do
  requireSignature image settings.signatureOffset settings.signature
  match stretch? image 0 BootParameters.headerLength with
  | none => fail (.outOfBounds 0 BootParameters.headerLength)
  | some raw =>
    let parameters ← ofAccess (header raw)
    if empty : parameters.layout.clusterSize = 0 then
      fail .emptyClusters
    else
      log (.volumeOpened parameters)
      return ⟨image, parameters, empty⟩

/-- The partition that starts at a byte offset. -/
def startingAt (disk : Bytes) (start : UInt64) : Loader Abort Partition :=
  match stretch? disk start.toNat disk.size with
  | none => fail (.outOfBounds start.toNat 0)
  | some image => return ⟨start, image⟩

/-- Finds the partition on a disk. -/
def onDisk (disk : Bytes) : PartitionLookup → Loader Abort Partition
  | .atOffset offset => startingAt disk offset
  | .bootRecord =>
    match stretch? disk Partition.sectorOffset (Partition.sectorOffset + 4) with
    | none => fail (.outOfBounds Partition.sectorOffset 4)
    | some raw => do
      let sector ← ofAccess (word32 raw)
      if sector = 0 then
        fail .noPartition
      else
        log (.partitionListed sector)
        startingAt disk (sector.toUInt64 * Partition.sectorLength)

/-- The bytes of a stretch of the image. Its end must not leave the word. -/
def view (v : Volume) (offset length : UInt64) : Except Abort Bytes :=
  let found :=
    if offset.toNat + length.toNat < 2 ^ 64 then
      stretch? v.image offset.toNat (offset.toNat + length.toNat)
    else
      none
  match found with
  | some bytes => .ok bytes
  | none => .error (.outOfBounds offset.toNat length.toNat)

/-- If there is a stretch for the signature, both its bytes are there. -/
theorem size_of_signature {found : Bytes} (short : image.size < 2 ^ 63)
    (h : stretch? image offset.toNat (signatureEnd offset) = some found) : found.size = 2 := by
  have inside : signatureEnd offset ≤ image.size := by
    apply Nat.not_lt.mp
    intro outside
    rw [stretch?_eq_none outside] at h
    cases h
  rw [size_of_stretch? h]
  unfold signatureEnd at inside ⊢
  omega

/-- There is a stretch for the signature exactly if there is a window for it. -/
theorem stretch?_signatureEnd (short : image.size < 2 ^ 63) :
    stretch? image offset.toNat (signatureEnd offset) =
      (image.window? offset.toNat 2).map (·.toArray) := by
  rw [← stretch?_eq_window?]
  rcases Nat.lt_or_ge (offset.toNat + 2) (2 ^ 64) with word | past
  · rw [signatureEnd, Nat.min_eq_left (by omega)]
  · rw [signatureEnd, Nat.min_eq_right (by omega), stretch?_eq_none (by omega),
      stretch?_eq_none (by omega)]

theorem requireSignature_eq (short : image.size < 2 ^ 63) :
    requireSignature image offset signature =
      ofExcept (BootParameters.requireSignature image offset signature) := by
  unfold requireSignature BootParameters.requireSignature
  rw [stretch?_signatureEnd short]
  cases image.window? offset.toNat 2 with
  | none => rfl
  | some found =>
    simp only [Option.map_some, byteAt_toArray found (show 0 < 2 by decide),
      byteAt_toArray found (show 1 < 2 by decide), ofAccess_ok_bind]
    split
    · rfl
    · rfl

theorem header_eq (raw : Vector UInt8 BootParameters.headerLength) :
    header raw.toArray = .ok (BootParameters.decode raw) := by
  have word (start : Nat) (inside : start + 2 ≤ 24) := word16At_toArray raw inside
  have byte (index : Nat) (inside : index < 24) := byteAt_toArray raw inside
  unfold header
  rw [word 11 (by decide), byte 13 (by decide), word 14 (by decide), byte 16 (by decide),
    word 17 (by decide), word 19 (by decide), byte 21 (by decide), word 22 (by decide)]
  rfl

theorem openImage_eq (short : image.size < 2 ^ 63) (settings : Settings) :
    openImage image settings = Volume.openImage image settings := by
  unfold openImage Volume.openImage Volume.ofImage BootParameters.ofImage
  rw [requireSignature_eq short]
  cases BootParameters.requireSignature image settings.signatureOffset settings.signature with
  | error reason => rfl
  | ok =>
    have found := stretch?_eq_window? image 0 BootParameters.headerLength
    rw [Nat.zero_add] at found
    rw [found]
    cases image.window? 0 BootParameters.headerLength with
    | none => rfl
    | some raw =>
      funext w
      simp only [Option.map_some, header_eq, ofAccess_ok_bind]
      by_cases empty : (BootParameters.decode raw).layout.clusterSize = 0
      · simp only [dif_pos empty, bind, Except.bind]
        rfl
      · simp only [dif_neg empty, bind, Except.bind]
        rfl

theorem startingAt_eq (disk : Bytes) (start : UInt64) :
    startingAt disk start = ofExcept (Partition.startingAt disk start) := by
  unfold startingAt Partition.startingAt
  by_cases inside : start.toNat ≤ disk.size
  · rw [stretch?_eq_some inside (Nat.le_refl _), if_pos inside]
    rfl
  · rw [stretch?, if_neg (by omega), if_neg inside]
    rfl

theorem onDisk_eq (disk : Bytes) (lookup : PartitionLookup) :
    onDisk disk lookup = Partition.ofDisk disk lookup := by
  cases lookup with
  | atOffset offset => exact startingAt_eq disk offset
  | bootRecord =>
    unfold onDisk Partition.ofDisk Partition.firstSector
    simp only [stretch?_eq_window?]
    cases disk.window? Partition.sectorOffset 4 with
    | none => rfl
    | some raw =>
      simp only [Option.map_some, word32_toArray raw (Nat.le_refl 4), ofAccess_ok_bind, startingAt_eq]
      split
      · rfl
      · rfl

variable {v : Volume} {length : UInt64}

theorem view_of_contains (inside : v.contains offset length = true) :
    view v offset length =
      .ok (v.image.extract offset.toNat (offset.toNat + length.toNat)) := by
  obtain ⟨below, fits⟩ := v.contains_iff.mp inside
  have sum : offset.toNat + length.toNat < 2 ^ 64 := below
  simp only [view, if_pos sum, stretch?_eq_some (Nat.le_add_right ..) fits]

theorem view_of_not_contains (outside : ¬ v.contains offset length = true) :
    view v offset length = .error (.outOfBounds offset.toNat length.toNat) := by
  rw [v.contains_iff] at outside
  unfold view
  by_cases sum : offset.toNat + length.toNat < 2 ^ 64
  · simp only [if_pos sum]
    rw [stretch?_eq_none (by omega)]
  · simp only [if_neg sum]

/-- A view shows what a slice does. -/
theorem view_of_slice? {bytes : Vector UInt8 length.toNat}
    (found : v.slice? offset length = some bytes) : view v offset length = .ok bytes.toArray := by
  unfold Volume.slice? at found
  split at found
  · rename_i inside
    have window := stretch?_eq_window? v.image offset.toNat length.toNat
    rw [found, stretch?_eq_some (Nat.le_add_right ..) (v.contains_iff.mp inside).2] at window
    rw [view_of_contains inside, Option.some.inj window]
  · cases found

theorem view_of_no_slice? (absent : v.slice? offset length = none) :
    view v offset length = .error (.outOfBounds offset.toNat length.toNat) := by
  unfold Volume.slice? at absent
  split at absent
  · rename_i inside
    have outside := Bytes.window?_eq_none_iff.mp absent
    exact absurd (v.contains_iff.mp inside).2 (Nat.not_le.mpr outside)
  · rename_i outside
    exact view_of_not_contains outside

end BootDisk.Bare
