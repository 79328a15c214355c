import BootDisk.Proofs.NameGrammar
import BootDisk.Proofs.Resolve

/-!
# Names as they are shown

A name is shown without the spaces at the ends of its fields, with a dot in front of an extension
only, and with each byte as the character of the same number. A path is taken byte for byte of its
encoding, and there a character from 0x80 on has two bytes (`widen`). So the text that is shown of a
name denotes the name exactly if the name is plain: encoding keeps the lengths of its fields, and
the first dot of the text is the one behind the base (`ofPath?_display_eq_iff`). An entry with such
a name is found, and loaded, by what is shown of it.
-/

namespace BootDisk.ShortName

/-! The encoding of what is shown. -/

/-- The bytes of a name that are shown, with the dot in front of its extension. -/
def shown (name : ShortName) : List UInt8 :=
  if (trim name.extension.toList).isEmpty then trim name.base.toList
  else trim name.base.toList ++ dot :: trim name.extension.toList

/-- The encoding of the character with the number of a byte. -/
def widen (byte : UInt8) : List UInt8 :=
  String.utf8EncodeChar (Char.ofUInt8 byte)

/-- The encodings of the characters with the numbers of some bytes. -/
def widened (bytes : List UInt8) : List UInt8 :=
  bytes.flatMap widen

theorem encoded_display (name : ShortName) : encoded name.display = widened name.shown := by
  show encoded (String.ofList (name.shown.map Char.ofUInt8)) = _
  rw [encoded, String.toUTF8_eq_toByteArray, String.toByteArray_ofList, List.utf8Encode,
    List.toList_data_toByteArray, List.flatMap_map]
  rfl

theorem toNat_val_ofUInt8 (byte : UInt8) : (Char.ofUInt8 byte).val.toNat = byte.toNat :=
  UInt8.toNat_toUInt32 byte

theorem widen_of_lt {byte : UInt8} (low : byte < 0x80) : widen byte = [byte] := by
  have size : (Char.ofUInt8 byte).utf8Size = 1 := by
    rw [UInt8.lt_iff_toNat_lt] at low
    rw [Char.utf8Size_eq_one_iff, UInt32.le_iff_toNat_le, toNat_val_ofUInt8]
    exact Nat.lt_succ_iff.mp low
  rw [widen, String.utf8EncodeChar_eq_singleton size]
  exact congrArg (fun byte => [byte]) byte.toUInt8_toUInt32

theorem widen_of_ge {byte : UInt8} (high : 0x80 ≤ byte) :
    ∃ lead trail, widen byte = [lead, trail] ∧ 0x80 ≤ lead ∧ 0x80 ≤ trail := by
  have size : (Char.ofUInt8 byte).utf8Size = 2 := by
    have := byte.toNat_lt
    rw [UInt8.le_iff_toNat_le] at high
    rw [Char.utf8Size_eq_two_iff, UInt32.lt_iff_toNat_lt, UInt32.le_iff_toNat_le, toNat_val_ofUInt8]
    exact ⟨high, Nat.le_trans (Nat.le_of_lt this) (by decide)⟩
  refine ⟨_, _, String.utf8EncodeChar_eq_cons_cons size, ?_, ?_⟩
  · rw [UInt8.le_iff_toNat_le, UInt8.toNat_or]
    exact Nat.le_trans (by decide) Nat.right_le_or
  · rw [UInt8.le_iff_toNat_le, UInt8.toNat_or]
    exact Nat.right_le_or

theorem widened_append (front back : List UInt8) :
    widened (front ++ back) = widened front ++ widened back :=
  List.flatMap_append

/-- A low byte stands in an encoding only for itself. -/
theorem mem_widened_iff {byte : UInt8} (low : byte < 0x80) {bytes : List UInt8} :
    byte ∈ widened bytes ↔ byte ∈ bytes := by
  rw [widened, List.mem_flatMap]
  constructor
  · rintro ⟨source, member, inside⟩
    rcases UInt8.lt_or_le source 0x80 with below | above
    · rw [widen_of_lt below, List.mem_singleton] at inside
      rwa [inside]
    · obtain ⟨lead, trail, two, highLead, highTrail⟩ := widen_of_ge above
      rw [two, List.mem_pair] at inside
      rcases inside with rfl | rfl
      · exact absurd low (UInt8.not_lt.mpr highLead)
      · exact absurd low (UInt8.not_lt.mpr highTrail)
  · intro member
    exact ⟨byte, member, by rw [widen_of_lt low]; exact List.mem_singleton_self byte⟩

theorem length_le_length_widened (bytes : List UInt8) :
    bytes.length ≤ (widened bytes).length := by
  induction bytes with
  | nil => exact Nat.zero_le _
  | cons byte rest ih =>
    have one : 1 ≤ (widen byte).length := List.length_pos_iff.mpr String.utf8EncodeChar_ne_nil
    rw [widened, List.flatMap_cons, List.length_append, List.length_cons]
    exact Nat.add_comm _ 1 ▸ Nat.add_le_add one ih

/-- Encoding leaves bytes as they are exactly if all of them are low, since it makes the others
longer. -/
theorem widened_eq_self_iff {bytes : List UInt8} :
    widened bytes = bytes ↔ ∀ byte ∈ bytes, byte < 0x80 := by
  induction bytes with
  | nil => simp [widened]
  | cons byte rest ih =>
    rw [List.forall_mem_cons, ← ih]
    rcases UInt8.lt_or_le byte 0x80 with low | high
    · rw [widened, List.flatMap_cons, widen_of_lt low, and_iff_right low]
      exact List.cons_inj_right byte
    · obtain ⟨lead, trail, two, -, -⟩ := widen_of_ge high
      have longer := length_le_length_widened rest
      constructor
      · intro same
        have length := congrArg List.length same
        rw [widened, List.flatMap_cons, two, List.length_append, List.length_cons] at length
        simp only [List.length_cons, List.length_nil, widened] at length longer
        omega
      · rintro ⟨low, -⟩
        exact absurd high (UInt8.not_le.mpr low)

theorem trim_concat_space (text : List UInt8) : trim (text ++ [space]) = trim text :=
  List.rdropWhile_concat_pos (· == space) text space rfl

theorem trim_concat_of_ne {byte : UInt8} (other : byte ≠ space) (text : List UInt8) :
    trim (text ++ [byte]) = text ++ [byte] :=
  List.rdropWhile_concat_neg (· == space) text byte (by simpa using other)

theorem trim_trim (text : List UInt8) : trim (trim text) = trim text :=
  List.rdropWhile_idempotent (· == space) text

/-- The encoding of a byte that is no space does not end with one. -/
theorem trim_append_widen {byte : UInt8} (other : byte ≠ space) (text : List UInt8) :
    trim (text ++ widen byte) = text ++ widen byte := by
  rcases UInt8.lt_or_le byte 0x80 with low | high
  · rw [widen_of_lt low, trim_concat_of_ne other]
  · obtain ⟨lead, trail, two, -, highTrail⟩ := widen_of_ge high
    have last : trail ≠ space := by
      rintro rfl
      exact absurd highTrail (by decide)
    rw [two, show text ++ [lead, trail] = text ++ [lead] ++ [trail] from List.append_cons ..,
      trim_concat_of_ne last]

/-- Spaces at the end can be dropped in front of the encoding or behind it. -/
theorem trim_widened (bytes : List UInt8) : trim (widened bytes) = widened (trim bytes) := by
  induction bytes using List.reverseRecOn with
  | nil => rfl
  | append_singleton bytes byte ih =>
    have last : widened [byte] = widen byte := List.flatMap_singleton ..
    by_cases isSpace : byte = space
    · subst isSpace
      rw [widened_append, last, widen_of_lt (by decide), trim_concat_space, ih, trim_concat_space]
    · rw [widened_append, last, trim_append_widen isSpace, trim_concat_of_ne isSpace,
        widened_append, last]

/-! The parts of what is shown. -/

theorem dot_not_mem_baseText (bytes : List UInt8) : dot ∉ baseText bytes := by
  have taken : baseText bytes = bytes.takeWhile fun byte => !(byte == dot) := by
    rw [List.takeWhile_eq_take_findIdx_not]
    simp only [Bool.not_not]
    rfl
  intro member
  rw [taken] at member
  exact absurd (List.mem_takeWhile_imp member) (by simp)

/-- A text without a dot is the base of a path, whatever extension is put behind it. -/
theorem parts_of_append {base : List UInt8} (noDot : dot ∉ base) (extension : List UInt8) :
    baseText (base ++ dot :: extension) = base ∧
      extensionText (base ++ dot :: extension) = extension := by
  have position : dotPosition (base ++ dot :: extension) = base.length := by
    have absent : ¬ base.findIdx (· == dot) < base.length := mt dotPosition_lt_iff.mp noDot
    rw [dotPosition, List.findIdx_append, if_neg absent, List.findIdx_cons]
    exact Nat.zero_add _
  constructor
  · rw [baseText, position, List.take_left]
  · rw [extensionText, position, ← List.drop_drop, List.drop_left, List.drop_one, List.tail_cons]

theorem mem_trim_iff {byte : UInt8} (other : byte ≠ space) {text : List UInt8} :
    byte ∈ trim text ↔ byte ∈ text := by
  obtain ⟨n, parts⟩ := exists_eq_trim_append text
  constructor
  · intro member
    rw [parts]
    exact List.mem_append_left _ member
  · intro member
    rw [parts, List.mem_append] at member
    exact member.resolve_right fun blank => other (List.eq_of_mem_replicate blank)

theorem trim_isPrefix (text : List UInt8) : trim text <+: text :=
  List.rdropWhile_prefix (· == space) text

/-- What is shown takes apart into the encodings of its two texts, if there is no dot in the
base. -/
theorem parts_of_shown {name : ShortName} (noDot : dot ∉ name.base.toList) :
    baseText (widened name.shown) = widened (trim name.base.toList) ∧
      extensionText (widened name.shown) = widened (trim name.extension.toList) := by
  have absent : dot ∉ widened (trim name.base.toList) := by
    rwa [mem_widened_iff (by decide), mem_trim_iff (by decide)]
  unfold shown
  split
  · rename_i blank
    rw [baseText_of_no_dot absent, extensionText_of_no_dot absent, List.isEmpty_iff.mp blank]
    exact ⟨rfl, rfl⟩
  · have dotted : widened (trim name.base.toList ++ dot :: trim name.extension.toList) =
        widened (trim name.base.toList) ++ dot :: widened (trim name.extension.toList) := by
      rw [widened_append, widened, widened, List.flatMap_cons, widen_of_lt (by decide)]
      rfl
    rw [dotted]
    exact parts_of_append absent _

theorem pad_toList {width : Nat} (field : Vector UInt8 width) : pad width field.toList = field := by
  apply Vector.ext
  intro i inside
  simp [pad]

/-- A field that is filled up from the encoding of its own text has low bytes only. -/
theorem ascii_of_eq_pad {width : Nat} {field : Vector UInt8 width}
    (fits : (widened (trim field.toList)).length ≤ width)
    (same : field = pad width (widened (trim field.toList))) : ∀ byte ∈ field.toList, byte < 0x80 := by
  have text : widened (trim field.toList) = trim field.toList :=
    calc
      widened (trim field.toList) = trim (widened (trim field.toList)) := by
        rw [trim_widened, trim_trim]
      _ = trim (pad width (widened (trim field.toList))).toList := by
        rw [toList_pad fits, trim_append_replicate]
      _ = trim field.toList := by rw [← same]
  intro byte member
  by_cases isSpace : byte = space
  · subst isSpace
    decide
  · exact widened_eq_self_iff.mp text byte ((mem_trim_iff isSpace).mpr member)

/-- A name that can be told by what is shown of it: its bytes are low, none is a slash, and none in
front of the extension is a dot. -/
structure IsPlain (name : ShortName) : Prop where
  ascii : ∀ byte ∈ name.base.toList ++ name.extension.toList, byte < 0x80
  noDot : dot ∉ name.base.toList
  noSlash : slash ∉ name.base.toList ++ name.extension.toList

/-- A slash in either field of a name is shown. -/
theorem slash_mem_shown_iff {name : ShortName} :
    slash ∈ name.shown ↔ slash ∈ name.base.toList ++ name.extension.toList := by
  have inBase : slash ∈ trim name.base.toList ↔ slash ∈ name.base.toList :=
    mem_trim_iff (by decide)
  have inExtension : slash ∈ trim name.extension.toList ↔ slash ∈ name.extension.toList :=
    mem_trim_iff (by decide)
  rw [List.mem_append, ← inBase, ← inExtension]
  unfold shown
  split
  · rename_i blank
    rw [List.isEmpty_iff.mp blank, or_iff_left List.not_mem_nil]
  · rw [List.mem_append, List.mem_cons, or_iff_right (show slash ≠ dot by decide)]

theorem ofPath?_display (name : ShortName) :
    ofPath? name.display = ofBytes? (widened name.shown) := by
  rw [← encoded_display]
  rfl

/-- Only a plain name is read back from what is shown of it. -/
theorem isPlain_of_ofPath? {name : ShortName} (denoted : ofPath? name.display = some name) :
    name.IsPlain := by
  rw [ofPath?_display] at denoted
  obtain ⟨short, same⟩ := ofBytes?_eq_some_iff.mp denoted
  have base := congrArg ShortName.base same
  have extension := congrArg ShortName.extension same
  dsimp only at base extension
  have base_le := short.length_baseText_le
  have extension_le := short.length_extensionText_le
  have noDot : dot ∉ name.base.toList := by
    rw [base, toList_pad base_le, List.mem_append]
    rintro (member | blank)
    · exact dot_not_mem_baseText _ member
    · exact absurd (List.eq_of_mem_replicate blank) (by decide)
  obtain ⟨baseParts, extensionParts⟩ := parts_of_shown noDot
  rw [baseParts] at base base_le
  rw [extensionParts] at extension extension_le
  refine ⟨?_, noDot, ?_⟩
  · intro byte member
    rcases List.mem_append.mp member with inBase | inExtension
    · exact ascii_of_eq_pad base_le base byte inBase
    · exact ascii_of_eq_pad extension_le extension byte inExtension
  · rw [← slash_mem_shown_iff, ← mem_widened_iff (by decide)]
    exact short.noSlash

/-- A plain name is read back from what is shown of it. -/
theorem IsPlain.ofPath?_eq {name : ShortName} (h : name.IsPlain) :
    ofPath? name.display = some name := by
  have base_le := (trim_isPrefix name.base.toList).length_le
  have extension_le := (trim_isPrefix name.extension.toList).length_le
  rw [Vector.length_toList] at base_le extension_le
  have base : widened (trim name.base.toList) = trim name.base.toList :=
    widened_eq_self_iff.mpr fun byte member =>
      h.ascii byte (List.mem_append_left _ ((trim_isPrefix _).subset member))
  have extension : widened (trim name.extension.toList) = trim name.extension.toList :=
    widened_eq_self_iff.mpr fun byte member =>
      h.ascii byte (List.mem_append_right _ ((trim_isPrefix _).subset member))
  obtain ⟨baseParts, extensionParts⟩ := parts_of_shown h.noDot
  rw [base] at baseParts
  rw [extension] at extensionParts
  rw [ofPath?_display, ofBytes?_eq_some_iff]
  refine ⟨⟨?_, ?_, ?_⟩, ?_⟩
  · rw [mem_widened_iff (by decide), slash_mem_shown_iff]
    exact h.noSlash
  · rwa [← length_baseText, baseParts]
  · intro _
    rwa [extensionParts]
  · rw [baseParts, extensionParts, pad_trim, pad_trim, pad_toList, pad_toList]

theorem ofPath?_display_eq_iff {name : ShortName} :
    ofPath? name.display = some name ↔ name.IsPlain :=
  ⟨isPlain_of_ofPath?, IsPlain.ofPath?_eq⟩

end BootDisk.ShortName

namespace BootDisk.Volume

open Loader

variable {v : Volume} {name : ShortName} {entries : List DirectoryEntry} {entry : DirectoryEntry}

/-- The first of some entries that carries the name of one of them. -/
theorem exists_named?_of_mem (member : entry ∈ entries) :
    ∃ front found back, entries = front ++ found :: back ∧ found.name = entry.name ∧
      (∀ other ∈ front, other.name ≠ entry.name) ∧
      DirectoryEntry.named? entry.name entries = some found := by
  have present : (DirectoryEntry.named? entry.name entries).isSome :=
    List.find?_isSome.mpr ⟨entry, member, decide_eq_true rfl⟩
  obtain ⟨found, named⟩ := Option.isSome_iff_exists.mp present
  obtain ⟨same, front, back, parts, earlier⟩ := List.find?_eq_some_iff_append.mp named
  refine ⟨front, found, back, parts, of_decide_eq_true same, ?_, named⟩
  intro other inFront
  simpa using earlier other inFront

/-- A path that denotes the name of an entry denotes the first entry that carries it. -/
theorem resolve_of_named {path : String} {found : DirectoryEntry}
    (hasEntries : v.directory = .ok entries) (isName : ShortName.ofPath? path = some name)
    (named : DirectoryEntry.named? name entries = some found) : v.resolve path = .ok found := by
  simp only [resolve, isName, hasEntries, named]

/-- **What is shown of a name denotes it.** The text that is shown of an entry is read back as the
name of the entry exactly if the name is plain. So the text that is shown of a listed entry with a
plain name finds the first listed entry with the same eleven bytes, and a load by that text is the
read of this entry. -/
theorem display_denotes_entry :
    (∀ entry : DirectoryEntry,
      ShortName.ofPath? entry.name.display = some entry.name ↔ entry.name.IsPlain) ∧
    ∀ (v : Volume) (memory : Memory) (w : Workspace) (entries : List DirectoryEntry),
      v.directory = .ok entries → ∀ entry ∈ entries, entry.name.IsPlain →
        ∃ front found back w₁, entries = front ++ found :: back ∧ found.name = entry.name ∧
          (∀ other ∈ front, other.name ≠ entry.name) ∧
          v.lookup memory entry.name.display w = .ok (some found) w₁ ∧
          w₁.destination = w.destination ∧
          v.load memory entry.name.display w =
            (v.read memory w.destination.size found.cluster.toUInt32 found.size).restate .abort
              w₁ := by
  refine ⟨fun entry => ShortName.ofPath?_display_eq_iff, ?_⟩
  intro v memory w entries hasEntries entry member plain
  obtain ⟨front, found, back, parts, same, earlier, named⟩ := exists_named?_of_mem member
  have resolved := resolve_of_named hasEntries plain.ofPath?_eq named
  exact ⟨front, found, back, v.searched entry.name.display w, parts, same, earlier,
    lookup_of_resolve resolved, destination_searched .., load_of_resolve resolved⟩

/-- A record whose base has a dot. It is shown as " A..B". -/
def sampleDotted : DirectoryEntry :=
  ⟨⟨ShortName.pad 8 [0x20, 0x41, 0x2E], ShortName.pad 3 [0x42]⟩, 0x20, 2, 1⟩

/-- A record whose extension starts with a dot. It is shown as " A..B", too. -/
def sampleTwin (cluster : UInt16) : DirectoryEntry :=
  ⟨⟨ShortName.pad 8 [0x20, 0x41], ShortName.pad 3 [0x2E, 0x42]⟩, 0x20, cluster, 1⟩

/-- A volume that lists three records that are shown alike. Each has a cluster of its own, which
ends its chain. -/
def sampleWithTwins : Volume where
  image := Array.replicate 30 0 ++ #[0xFF, 0xFF, 0xFF, 0xFF, 0xFF, 0xFF, 0, 0] ++
    sampleDotted.encode ++ (sampleTwin 3).encode ++ (sampleTwin 4).encode ++
    #[21, 22, 31, 32, 41, 42]
  parameters := ⟨2, 1, 13, 1, 3, 0, 0, 6⟩
  clusterSize_ne_zero := by decide

/-- The text of the last record finds the one in front of it, which has the same bytes, and not
the first, which has others and cannot be told by its text. So it loads the byte of the second
record. -/
theorem display_denotes_entry_twins :
    sampleWithTwins.directory = .ok [sampleDotted, sampleTwin 3, sampleTwin 4] ∧
    (sampleTwin 4).name.IsPlain ∧ (sampleTwin 4).name.display = " A..B" ∧
    (∃ w₁ w₂, sampleWithTwins.lookup .strict (sampleTwin 4).name.display (.start #[9, 9]) =
        .ok (some (sampleTwin 3)) w₁ ∧
      sampleWithTwins.load .strict (sampleTwin 4).name.display (.start #[9, 9]) =
        (sampleWithTwins.read .strict 2 3 1).restate .abort w₁ ∧
      sampleWithTwins.load .strict (sampleTwin 4).name.display (.start #[9, 9]) = .ok 1 w₂ ∧
      w₂.destination = #[31, 9]) ∧
    sampleDotted.name.display = " A..B" ∧
    ShortName.ofPath? sampleDotted.name.display ≠ some sampleDotted.name := by
  have hasEntries : sampleWithTwins.directory =
      .ok [sampleDotted, sampleTwin 3, sampleTwin 4] := by decide +kernel
  have plain : (sampleTwin 4).name.IsPlain :=
    ⟨by decide +kernel, by decide +kernel, by decide +kernel⟩
  have looked : (sampleWithTwins.lookup .strict (sampleTwin 4).name.display).outcome
      (.start #[9, 9]) = .ok (some (sampleTwin 3)) := lookup_eq_some_iff.mpr (by decide +kernel)
  have dotted : ¬ sampleDotted.name.IsPlain := fun plain => plain.noDot (by decide +kernel)
  obtain ⟨front, found, back, w₁, -, -, -, lookup, -, load⟩ :=
    display_denotes_entry.2 sampleWithTwins .strict (.start #[9, 9]) _ hasEntries (sampleTwin 4)
      (by decide +kernel) plain
  rw [outcome_of_ok lookup] at looked
  cases looked
  have loaded : (sampleWithTwins.load .strict (sampleTwin 4).name.display).outcome
      (.start #[9, 9]) = .ok 1 := by decide +kernel
  have left : ((sampleWithTwins.load .strict (sampleTwin 4).name.display).after
      (.start #[9, 9])).destination = #[31, 9] := by decide +kernel
  exact ⟨hasEntries, plain, by decide +kernel,
    ⟨w₁, _, lookup, load, eq_ok_of_outcome loaded, left⟩, by decide +kernel,
    fun denoted => dotted ((display_denotes_entry.1 sampleDotted).mp denoted)⟩

end BootDisk.Volume
