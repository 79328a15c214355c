import BootDisk.Proofs.Bare.Volume
import BootDisk.Proofs.RoundTrip
import BootDisk.Proofs.Stages

/-!
# The outcome of opening a volume

An image holds a volume if it carries the signature, is long enough for a header, and the header
gives clusters some bytes (`HoldsVolume`). If it does not, the first of these that is missing is why
it is not opened (`Unopened`). The fields of an opened volume are those whose written form is in the
header (`encode_eq_iff`), and its regions are computed from them alone (`LaidOut`).
-/

namespace BootDisk

open Loader

/-- Two bytes are the written form of the number they hold. -/
theorem LittleEndian.encode_word16 (low high : UInt8) :
    encode 2 (word16 low high).toNat = [low, high] := by
  rw [toNat_word16]
  exact encode_decode [low, high]

namespace BootParameters

/-- Where the fields of a header start. -/
def fieldsPosition : Nat := 11

/-- The fields as they are written in a header, one behind the other. -/
def encode (p : BootParameters) : Bytes :=
  (LittleEndian.encode 2 p.bytesPerSector.toNat ++ [p.sectorsPerCluster] ++
    LittleEndian.encode 2 p.reservedSectors.toNat ++ [p.tableCount] ++
    LittleEndian.encode 2 p.rootEntries.toNat ++ LittleEndian.encode 2 p.totalSectors.toNat ++
    [p.media] ++ LittleEndian.encode 2 p.sectorsPerTable.toNat).toArray

/-- The written fields are the end of the header they were read from. -/
theorem encode_decode (header : Vector UInt8 headerLength) :
    (decode header).encode = header.toArray.extract fieldsPosition headerLength := by
  obtain ⟨⟨bytes⟩, length⟩ := header
  match bytes, length with
  | [_, _, _, _, _, _, _, _, _, _, _, _, _, _, _, _, _, _, _, _, _, _, _, _], _ =>
    simp only [decode, encode, LittleEndian.encode_word16]
    rfl

/-- Fields survive being written. -/
theorem encode_inj {p q : BootParameters} (same : p.encode = q.encode) : p = q := by
  obtain ⟨bytesPerSector, _, reservedSectors, _, rootEntries, totalSectors, _, sectorsPerTable⟩ := p
  obtain ⟨bytesPerSector', _, reservedSectors', _, rootEntries', totalSectors', _,
    sectorsPerTable'⟩ := q
  have word {n n' : UInt16} (low : UInt8.ofNat n.toNat = UInt8.ofNat n'.toNat)
      (high : UInt8.ofNat (n.toNat / 256) = UInt8.ofNat (n'.toNat / 256)) : n = n' := by
    rw [← LittleEndian.word16_encode n, low, high, LittleEndian.word16_encode]
  simp only [encode, LittleEndian.encode, List.cons_append, List.nil_append, Array.mk.injEq,
    List.cons.injEq] at same
  obtain ⟨b₁, b₂, rfl, r₁, r₂, rfl, e₁, e₂, s₁, s₂, rfl, t₁, t₂, -⟩ := same
  rw [word b₁ b₂, word r₁ r₂, word e₁ e₂, word s₁ s₂, word t₁ t₂]

/-- A cluster has no bytes exactly if sectors have none or clusters have no sectors. -/
theorem clusterSize_eq_zero_iff (p : BootParameters) :
    p.layout.clusterSize = 0 ↔ p.bytesPerSector = 0 ∨ p.sectorsPerCluster = 0 := by
  have product := p.toNat_clusterSize
  rw [← UInt64.toNat_inj, ← UInt16.toNat_inj, ← UInt8.toNat_inj, product]
  exact Nat.mul_eq_zero

end BootParameters

/-- The regions of a volume lie as its boot parameters say: the tables behind the boot area, the
root directory behind the tables, and the data behind that. -/
structure LaidOut (p : BootParameters) (layout : Layout) : Prop where
  clusterSize : layout.clusterSize.toNat = p.bytesPerSector.toNat * p.sectorsPerCluster.toNat
  tableOffset : layout.tableOffset.toNat = p.reservedSectors.toNat * p.bytesPerSector.toNat
  rootOffset : layout.rootOffset.toNat = layout.tableOffset.toNat +
    p.tableCount.toNat * p.sectorsPerTable.toNat * p.bytesPerSector.toNat
  rootSize : layout.rootSize.toNat = p.rootEntries.toNat * 32
  dataOffset : layout.dataOffset.toNat = layout.rootOffset.toNat + layout.rootSize.toNat

theorem laidOut_layout (p : BootParameters) : LaidOut p p.layout where
  clusterSize := p.toNat_clusterSize
  tableOffset := p.toNat_reservedSize
  rootOffset := p.toNat_tablesSize ▸ p.toNat_rootOffset
  rootSize := p.toNat_rootSize
  dataOffset := p.toNat_dataOffset

/-- The image carries the signature where the settings say. -/
structure Signed (image : Bytes) (settings : Settings) : Prop where
  first : image[settings.signatureOffset.toNat]? = some settings.signature.1
  second : image[settings.signatureOffset.toNat + 1]? = some settings.signature.2

/-- Two bytes of an image are there, or they are not both inside it. -/
theorem Bytes.pair_cases (b : Bytes) (offset : Nat) :
    b.size < offset + 2 ∨ ∃ found : UInt8 × UInt8, b[offset]? = some found.1 ∧
      b[offset + 1]? = some found.2 := by
  rcases Nat.lt_or_ge b.size (offset + 2) with outside | inside
  · exact .inl outside
  · refine .inr ⟨(b[offset], b[offset + 1]), ?_, ?_⟩
    · exact Array.getElem?_eq_getElem (by omega)
    · exact Array.getElem?_eq_getElem (by omega)

/-- The check of the signature looks at its two bytes. -/
theorem BootParameters.requireSignature_of_found {image : Bytes} {offset : UInt64}
    {found : UInt8 × UInt8} (signature : UInt8 × UInt8)
    (first : image[offset.toNat]? = some found.1) (second : image[offset.toNat + 1]? = some found.2) :
    requireSignature image offset signature =
      if found = signature then .ok () else .error (.invalidSignature offset.toNat found) := by
  obtain ⟨inside, -⟩ := Array.getElem?_eq_some_iff.mp second
  obtain ⟨window, hasWindow⟩ :=
    Option.isSome_iff_exists.mp (Bytes.window?_isSome_iff.mpr
      (show offset.toNat + 2 ≤ image.size from Nat.succ_le_of_lt inside))
  have low := Bytes.getElem_of_window? hasWindow (show 0 < 2 by decide)
  have high := Bytes.getElem_of_window? hasWindow (show 1 < 2 by decide)
  rw [Nat.add_zero, first, Option.some.injEq] at low
  rw [second, Option.some.injEq] at high
  simp only [requireSignature, hasWindow, ← low, ← high]

namespace Volume

variable {image : Bytes} {settings : Settings} {v : Volume} {reason : Abort}

/-- Why the volume in an image is not opened: the first check that fails. -/
inductive Unopened (image : Bytes) (settings : Settings) : Abort → Prop where
  | noSignature (outside : image.size < settings.signatureOffset.toNat + 2) :
    Unopened image settings (.outOfBounds settings.signatureOffset.toNat 2)
  | wrongSignature {found : UInt8 × UInt8}
    (first : image[settings.signatureOffset.toNat]? = some found.1)
    (second : image[settings.signatureOffset.toNat + 1]? = some found.2)
    (wrong : found ≠ settings.signature) :
    Unopened image settings (.invalidSignature settings.signatureOffset.toNat found)
  | noHeader (signed : Signed image settings) (short : image.size < 24) :
    Unopened image settings (.outOfBounds 0 24)
  | emptyClusters {p : BootParameters} (signed : Signed image settings) (complete : 24 ≤ image.size)
    (fields : image.extract 11 24 = p.encode)
    (empty : p.bytesPerSector = 0 ∨ p.sectorsPerCluster = 0) :
    Unopened image settings .emptyClusters

/-- The image holds this volume. -/
structure HoldsVolume (image : Bytes) (settings : Settings) (v : Volume) : Prop where
  signed : Signed image settings
  complete : 24 ≤ image.size
  image_eq : v.image = image
  fields : image.extract 11 24 = v.parameters.encode
  sectors : v.parameters.bytesPerSector ≠ 0
  clusters : v.parameters.sectorsPerCluster ≠ 0

/-- An image with a signature is opened or not by its header. -/
theorem ofImage_of_signed (signed : Signed image settings) :
    ofImage image settings =
      match image.window? 0 BootParameters.headerLength with
      | none => .error (.outOfBounds 0 BootParameters.headerLength)
      | some header =>
        if empty : (BootParameters.decode header).layout.clusterSize = 0 then
          .error .emptyClusters
        else
          .ok ⟨image, BootParameters.decode header, empty⟩ := by
  apply ofImage_of_signature
  rw [BootParameters.requireSignature_of_found _ signed.first signed.second, if_pos rfl]

/-- A header that is inside the image is the written form of its fields. -/
theorem exists_header (complete : 24 ≤ image.size) :
    ∃ header, image.window? 0 BootParameters.headerLength = some header ∧
      image.extract 11 24 = (BootParameters.decode header).encode := by
  refine ⟨_, dif_pos (by rwa [Nat.zero_add]), ?_⟩
  rw [BootParameters.encode_decode]
  simp [BootParameters.fieldsPosition, BootParameters.headerLength]

/-- Every image is refused, or it holds a volume. -/
theorem unopened_or_holdsVolume (image : Bytes) (settings : Settings) :
    (∃ reason, Unopened image settings reason) ∨ ∃ v, HoldsVolume image settings v := by
  rcases image.pair_cases settings.signatureOffset.toNat with outside | ⟨found, first, second⟩
  · exact .inl ⟨_, .noSignature outside⟩
  · by_cases right : found = settings.signature
    · subst right
      have signed : Signed image settings := ⟨first, second⟩
      rcases Nat.lt_or_ge image.size 24 with short | complete
      · exact .inl ⟨_, .noHeader signed short⟩
      · obtain ⟨header, -, fields⟩ := exists_header complete
        by_cases empty : (BootParameters.decode header).layout.clusterSize = 0
        · exact .inl ⟨_, .emptyClusters signed complete fields
            ((BootParameters.clusterSize_eq_zero_iff _).mp empty)⟩
        · obtain ⟨sectors, clusters⟩ :=
            not_or.mp (mt (BootParameters.clusterSize_eq_zero_iff _).mpr empty)
          exact .inr ⟨⟨image, _, empty⟩, signed, complete, rfl, fields, sectors, clusters⟩
    · exact .inl ⟨_, .wrongSignature first second right⟩

/-- Each reason keeps the volume from being opened. -/
theorem Unopened.ofImage_eq (h : Unopened image settings reason) :
    ofImage image settings = .error reason := by
  cases h with
  | noSignature outside =>
    exact ofImage_of_no_signature (BootParameters.requireSignature_of_outside _ outside)
  | wrongSignature first second wrong =>
    apply ofImage_of_no_signature
    rw [BootParameters.requireSignature_of_found _ first second, if_neg wrong]
  | noHeader signed short =>
    rw [ofImage_of_signed signed, Bytes.window?_eq_none_iff.mpr (by rwa [Nat.zero_add])]
    rfl
  | emptyClusters signed complete fields empty =>
    obtain ⟨header, found, fields'⟩ := exists_header complete
    have same := BootParameters.encode_inj (fields.symm.trans fields')
    subst same
    rw [ofImage_of_signed signed, found]
    exact dif_pos ((BootParameters.clusterSize_eq_zero_iff _).mpr empty)

/-- An image that holds a volume is opened as that volume. -/
theorem HoldsVolume.ofImage_eq (h : HoldsVolume image settings v) :
    ofImage image settings = .ok v := by
  obtain ⟨header, found, fields⟩ := exists_header h.complete
  refine ofImage_of_header ?_ found h.image_eq (BootParameters.encode_inj (h.fields.symm.trans fields))
  rw [BootParameters.requireSignature_of_found _ h.signed.first h.signed.second, if_pos rfl]

theorem ofImage_eq_error_iff :
    ofImage image settings = .error reason ↔ Unopened image settings reason := by
  refine ⟨?_, Unopened.ofImage_eq⟩
  intro closed
  rcases unopened_or_holdsVolume image settings with ⟨reason', unopened⟩ | ⟨v, holds⟩
  · cases unopened.ofImage_eq.symm.trans closed
    exact unopened
  · cases holds.ofImage_eq.symm.trans closed

theorem ofImage_eq_ok_iff : ofImage image settings = .ok v ↔ HoldsVolume image settings v := by
  refine ⟨?_, HoldsVolume.ofImage_eq⟩
  intro opened
  rcases unopened_or_holdsVolume image settings with ⟨reason', unopened⟩ | ⟨v', holds⟩
  · cases unopened.ofImage_eq.symm.trans opened
  · cases holds.ofImage_eq.symm.trans opened
    exact holds

/-- **The outcome of opening, exactly.** Opening the volume in an image fails for the first reason
that applies: the two bytes of the signature are not both inside the image, wherever they are looked
for, even if the end of the two is cut off at the last word; they are not those of the signature,
whatever else the image holds; it is too short for a header; or the header gives sectors no bytes or
clusters no sectors. Otherwise it succeeds, with clusters that have bytes. The fields of the volume
are the ones whose written form is in the bytes 11 to 24 of the image, and they alone say where its
regions are. -/
theorem openImage_outcome (image : Bytes) (settings : Settings) (w : Workspace) :
    (∀ reason, (openImage image settings).outcome w = .error (.failure reason) ↔
      Unopened image settings reason) ∧
    (∀ v, (openImage image settings).outcome w = .ok v ↔ HoldsVolume image settings v) ∧
    (∀ cause, (openImage image settings).outcome w ≠ .error (.fault cause)) ∧
    (∀ v, (openImage image settings).outcome w = .ok v →
      0 < v.layout.clusterSize.toNat ∧ LaidOut v.parameters v.layout ∧
        ∀ p : BootParameters, image.extract 11 24 = p.encode → p = v.parameters) ∧
    (image.size < 2 ^ 63 → Bare.openImage image settings = openImage image settings) := by
  have outcome_eq := outcome_openImage image settings w
  refine ⟨?_, ?_, ?_, ?_, fun short => Bare.openImage_eq short settings⟩
  · intro reason
    rw [outcome_eq, mapError_eq_error_iff, ← ofImage_eq_error_iff]
    constructor
    · rintro ⟨reason', closed, same⟩
      cases same
      exact closed
    · intro closed
      exact ⟨reason, closed, rfl⟩
  · intro v
    rw [outcome_eq, mapError_eq_ok_iff, ofImage_eq_ok_iff]
  · intro cause faulted
    rw [outcome_eq] at faulted
    obtain ⟨reason, -, same⟩ := mapError_eq_error_iff.mp faulted
    cases same
  · intro v opened
    rw [outcome_eq, mapError_eq_ok_iff, ofImage_eq_ok_iff] at opened
    refine ⟨v.clusterSize_pos, laidOut_layout v.parameters, ?_⟩
    intro p fields
    exact BootParameters.encode_inj (fields.symm.trans opened.fields)

/-- The sample volume is opened, with its signature looked for behind its header. It is refused
where the offset of the signature is the last word. Images of two bytes are refused for a wrong
signature or for want of a header, and a header of zeros is refused for its empty clusters. -/
theorem openImage_outcome_samples :
    (openImage sample.image sampleSettings).outcome (.start #[]) = .ok sample ∧
    (Bare.openImage sample.image { sampleSettings with signatureOffset := 0xFFFFFFFFFFFFFFFF }).outcome
      (.start #[]) = .error (.failure (.outOfBounds 0xFFFFFFFFFFFFFFFF 2)) ∧
    (openImage #[0x55, 0xAB] { sampleSettings with signatureOffset := 0 }).outcome (.start #[]) =
      .error (.failure (.invalidSignature 0 (0x55, 0xAB))) ∧
    (openImage #[0x55, 0xAA] { sampleSettings with signatureOffset := 0 }).outcome (.start #[]) =
      .error (.failure (.outOfBounds 0 24)) ∧
    (openImage (Array.replicate 24 0 ++ #[0x55, 0xAA]) sampleSettings).outcome (.start #[]) =
      .error (.failure .emptyClusters) := by
  obtain ⟨-, opens, -⟩ := openImage_outcome sample.image sampleSettings (.start #[])
  obtain ⟨outside, -, -, -, bare⟩ := openImage_outcome sample.image
    { sampleSettings with signatureOffset := 0xFFFFFFFFFFFFFFFF } (.start #[])
  obtain ⟨wrong, -⟩ := openImage_outcome #[0x55, 0xAB]
    { sampleSettings with signatureOffset := 0 } (.start #[])
  obtain ⟨short, -⟩ := openImage_outcome #[0x55, 0xAA]
    { sampleSettings with signatureOffset := 0 } (.start #[])
  obtain ⟨empty, -⟩ := openImage_outcome (Array.replicate 24 0 ++ #[0x55, 0xAA]) sampleSettings
    (.start #[])
  refine ⟨(opens sample).mpr ?_, ?_, (wrong _).mpr ?_, (short _).mpr ?_, (empty _).mpr ?_⟩
  · exact ⟨⟨by decide, by decide⟩, by decide, rfl, by decide +kernel, by decide, by decide⟩
  · rw [bare (by decide)]
    exact (outside _).mpr (.noSignature (by decide))
  · refine .wrongSignature rfl rfl ?_
    decide
  · exact .noHeader ⟨rfl, rfl⟩ (by decide)
  · exact .emptyClusters (p := ⟨0, 0, 0, 0, 0, 0, 0, 0⟩) ⟨by decide, by decide⟩ (by decide)
      (by decide +kernel) (.inl rfl)

end Volume

end BootDisk
