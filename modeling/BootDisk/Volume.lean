import BootDisk.Layout
import BootDisk.Cluster
import BootDisk.Settings

/-!
# Volumes

A volume is an image whose boot sector was checked: it carries the boot signature, and its clusters
have bytes. The image is only ever looked at through `slice?`, with offsets and lengths that are
64-bit words, so that a stretch whose end leaves the word is outside too.
-/

namespace BootDisk

/-- A partition image with the boot parameters it carries. -/
structure Volume where
  image : Bytes
  parameters : BootParameters
  clusterSize_ne_zero : parameters.layout.clusterSize ≠ 0

namespace Volume

/-- The volume in an image: first the signature is checked, then the header, then the size of a
cluster. -/
def ofImage (image : Bytes) (settings : Settings) : Except Abort Volume := do
  let parameters ← BootParameters.ofImage image settings.signatureOffset settings.signature
  if empty : parameters.layout.clusterSize = 0 then
    .error .emptyClusters
  else
    .ok ⟨image, parameters, empty⟩

variable (v : Volume)

/-- Where the regions of the volume lie. -/
def layout : Layout :=
  v.parameters.layout

/-- Whether a stretch is inside the image. Its end must not leave the word. -/
def contains (offset length : UInt64) : Bool :=
  offset ≤ offset + length && (offset + length).toNat ≤ v.image.size

/-- The bytes of a stretch, if it is inside the image. -/
def slice? (offset length : UInt64) : Option (Vector UInt8 length.toNat) :=
  if v.contains offset length then v.image.window? offset.toNat length.toNat else none

/-- The offset of the table word of a cluster. -/
def linkOffset (c : Cluster) : UInt64 :=
  v.layout.tableOffset + c.index.toUInt64 * 2

/-- The table word of a cluster. -/
def tableWord (c : Cluster) : Except Abort UInt16 :=
  match v.slice? (v.linkOffset c) 2 with
  | some word => .ok (LittleEndian.word16 word[0] word[1])
  | none => .error (.outOfBounds (v.linkOffset c).toNat 2)

/-- The offset of the bytes of a cluster. Clusters are numbered from two. -/
def clusterOffset (c : Cluster) : UInt64 :=
  v.layout.dataOffset + (c.index.toUInt64 - 2) * v.layout.clusterSize

/-- The length of a cluster is a positive number. -/
theorem clusterSize_pos : 0 < v.layout.clusterSize.toNat := by
  apply Nat.pos_of_ne_zero
  intro h
  exact v.clusterSize_ne_zero (UInt64.toNat_inj.mp h)

/-- A stretch is inside exactly if its end, as a number, is neither past the image nor past the
word. -/
theorem contains_iff {offset length : UInt64} :
    v.contains offset length = true ↔
      offset.toNat + length.toNat < 0x10000000000000000 ∧
        offset.toNat + length.toNat ≤ v.image.size := by
  have := offset.toNat_lt
  have := length.toNat_lt
  simp only [contains, Bool.and_eq_true, decide_eq_true_eq, UInt64.le_iff_toNat_le,
    UInt64.toNat_add]
  omega

/-- The number of a cluster in the data region is its own number less two. -/
theorem toNat_clusterOffset (c : Cluster) :
    (v.clusterOffset c).toNat =
      v.layout.dataOffset.toNat + (c.index.toNat - 2) * v.layout.clusterSize.toNat := by
  have low := c.two_le_toNat_index
  have high := c.index.toNat_lt
  have size := v.parameters.clusterSize_lt
  have start : v.layout.dataOffset.toNat < 0x20000000000 := v.parameters.dataOffset_lt
  have product :
      (c.index.toNat - 2) * v.layout.clusterSize.toNat < 0x10000 * 0x1000000 :=
    BootParameters.mul_lt_of_lt (by omega) size
  have number : (c.index.toUInt64 - 2).toNat = c.index.toNat - 2 := by
    rw [UInt64.toNat_sub_of_le]
    · simp
    · rw [UInt64.le_iff_toNat_le]; simpa using low
  simp only [clusterOffset, UInt64.toNat_add, UInt64.toNat_mul, number]
  omega

theorem toNat_linkOffset (c : Cluster) :
    (v.linkOffset c).toNat = v.layout.tableOffset.toNat + 2 * c.index.toNat := by
  have := c.index.toNat_lt
  have start : v.layout.tableOffset.toNat < 0x100000000 := v.parameters.reservedSize_lt
  simp only [linkOffset, UInt64.toNat_add, UInt64.toNat_mul, UInt16.toNat_toUInt64,
    UInt64.reduceToNat]
  omega

end Volume

end BootDisk
