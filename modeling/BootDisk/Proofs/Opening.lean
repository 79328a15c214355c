import BootDisk.Volume

/-!
# What opening a volume looks at

Opening a volume reads the two bytes of the signature and, if they are right, the header of the
boot sector. Two images that agree on these open alike, with volumes that differ in nothing but the
image (`ofImage_of_sameStretch`).
-/

namespace BootDisk

namespace Bytes

/-- A stretch that is inside two byte strings and holds the same bytes in both. -/
structure SameStretch (b b' : Bytes) (offset length : Nat) : Prop where
  inside : offset + length ≤ b.size
  inside' : offset + length ≤ b'.size
  same : ∀ i, offset ≤ i → i < offset + length → b'[i]? = b[i]?

/-- The same stretch has the same bytes. -/
theorem SameStretch.extract_eq {b b' : Bytes} {offset length : Nat}
    (h : b.SameStretch b' offset length) :
    b'.extract offset (offset + length) = b.extract offset (offset + length) := by
  apply Array.ext_getElem?
  intro i
  have := h.inside
  have := h.inside'
  rw [Array.getElem?_extract, Array.getElem?_extract]
  by_cases within : i < length
  · rw [if_pos (by omega), if_pos (by omega), h.same _ (by omega) (by omega)]
  · rw [if_neg (by omega), if_neg (by omega)]

/-- The same stretch has the same window. -/
theorem SameStretch.window?_eq {b b' : Bytes} {offset length : Nat}
    (h : b.SameStretch b' offset length) : b'.window? offset length = b.window? offset length := by
  unfold window?
  rw [dif_pos h.inside, dif_pos h.inside', Option.some.injEq, Vector.mk.injEq]
  exact h.extract_eq

end Bytes

theorem BootParameters.requireSignature_of_sameStretch {image image' : Bytes} {offset : UInt64}
    (signature : UInt8 × UInt8) (same : image.SameStretch image' offset.toNat 2) :
    requireSignature image' offset signature = requireSignature image offset signature := by
  rw [requireSignature, requireSignature, same.window?_eq]

/-- A signature that crosses the end of the image is out of bounds. -/
theorem BootParameters.requireSignature_of_outside {image : Bytes} {offset : UInt64}
    (signature : UInt8 × UInt8) (outside : image.size < offset.toNat + 2) :
    requireSignature image offset signature = .error (.outOfBounds offset.toNat 2) := by
  rw [requireSignature, Bytes.window?_eq_none_iff.mpr outside]

namespace Volume

/-- The volume with another image in place of its own. -/
def onImage (v : Volume) (image : Bytes) : Volume :=
  { v with image }

@[simp]
theorem layout_onImage (v : Volume) (image : Bytes) : (v.onImage image).layout = v.layout := rfl

@[simp]
theorem linkOffset_onImage (v : Volume) (image : Bytes) (c : Cluster) :
    (v.onImage image).linkOffset c = v.linkOffset c := rfl

/-- A wrong or missing signature is why a volume does not open. -/
theorem ofImage_of_no_signature {image : Bytes} {settings : Settings} {reason : Abort}
    (wrong : BootParameters.requireSignature image settings.signatureOffset settings.signature =
      .error reason) : ofImage image settings = .error reason := by
  simp only [ofImage, BootParameters.ofImage, wrong, bind, Except.bind]

/-- Behind a right signature the header settles everything. -/
theorem ofImage_of_signature {image : Bytes} {settings : Settings}
    (right : BootParameters.requireSignature image settings.signatureOffset settings.signature =
      .ok ()) :
    ofImage image settings =
      match image.window? 0 BootParameters.headerLength with
      | none => .error (.outOfBounds 0 BootParameters.headerLength)
      | some header =>
        if empty : (BootParameters.decode header).layout.clusterSize = 0 then
          .error .emptyClusters
        else
          .ok ⟨image, BootParameters.decode header, empty⟩ := by
  simp only [ofImage, BootParameters.ofImage, right, bind, Except.bind]
  cases image.window? 0 BootParameters.headerLength <;> rfl

/-- What an opened volume went through. -/
theorem eq_of_ofImage {image : Bytes} {settings : Settings} {v : Volume}
    (opened : ofImage image settings = .ok v) :
    BootParameters.requireSignature image settings.signatureOffset settings.signature = .ok () ∧
      ∃ header, image.window? 0 BootParameters.headerLength = some header ∧
        v.image = image ∧ v.parameters = BootParameters.decode header := by
  cases checked : BootParameters.requireSignature image settings.signatureOffset
      settings.signature with
  | error reason =>
    rw [ofImage_of_no_signature checked] at opened
    cases opened
  | ok =>
    rw [ofImage_of_signature checked] at opened
    cases found : image.window? 0 BootParameters.headerLength with
    | none =>
      rw [found] at opened
      cases opened
    | some header =>
      simp only [found] at opened
      split at opened
      · cases opened
      · cases opened
        exact ⟨rfl, header, rfl, rfl, rfl⟩

/-- An image with a right signature holds the volume that its header describes. -/
theorem ofImage_of_header {image : Bytes} {settings : Settings} {v : Volume}
    {header : Vector UInt8 BootParameters.headerLength}
    (right : BootParameters.requireSignature image settings.signatureOffset settings.signature =
      .ok ()) (found : image.window? 0 BootParameters.headerLength = some header)
    (hasImage : v.image = image) (hasShape : v.parameters = BootParameters.decode header) :
    ofImage image settings = .ok v := by
  obtain ⟨_, _, isShape⟩ := v
  subst hasImage hasShape
  rw [ofImage_of_signature right, found]
  exact dif_neg isShape

/-- Images that agree on the signature and on the header open alike. -/
theorem ofImage_of_sameStretch {image image' : Bytes} {settings : Settings}
    (signature : image.SameStretch image' settings.signatureOffset.toNat 2)
    (header : image.SameStretch image' 0 BootParameters.headerLength) :
    ofImage image' settings = (ofImage image settings).map (·.onImage image') := by
  have same := BootParameters.requireSignature_of_sameStretch settings.signature signature
  cases checked : BootParameters.requireSignature image settings.signatureOffset
      settings.signature with
  | error reason =>
    rw [ofImage_of_no_signature checked, ofImage_of_no_signature (same.trans checked)]
    rfl
  | ok =>
    rw [ofImage_of_signature checked, ofImage_of_signature (same.trans checked),
      header.window?_eq]
    cases image.window? 0 BootParameters.headerLength with
    | none => rfl
    | some header =>
      dsimp only
      split <;> rfl

end Volume

end BootDisk
