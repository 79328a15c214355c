import BootDisk.ShortName
import Mathlib.Data.List.DropRight

/-!
# The grammar of short names

Which paths are short names, told by the first dot of the path: no byte is a slash, at most eight
stand in front of the dot and at most three behind it. `component_eq` says what taking a component
gives in one step, and `ofBytes?_eq` puts the two components together. The fields of a name are the
two texts filled up with spaces, so names are the same exactly if the texts are, trailing spaces
apart (`pad_eq_pad_iff`).
-/

namespace BootDisk.ShortName

/-- The bytes of a path in its encoding. -/
def encoded (path : String) : List UInt8 :=
  path.toUTF8.data.toList

/-- Where the first dot is, or how many bytes there are if there is none. -/
def dotPosition (bytes : List UInt8) : Nat :=
  bytes.findIdx (· == dot)

/-- The bytes in front of the first dot. -/
def baseText (bytes : List UInt8) : List UInt8 :=
  bytes.take (dotPosition bytes)

/-- The bytes behind the first dot, later dots among them. -/
def extensionText (bytes : List UInt8) : List UInt8 :=
  bytes.drop (dotPosition bytes + 1)

/-- Bytes that denote a short name. -/
structure IsShort (bytes : List UInt8) : Prop where
  noSlash : slash ∉ bytes
  base_le : dotPosition bytes ≤ 8
  extension_le : dot ∈ bytes → (extensionText bytes).length ≤ 3

/-! Taking a path apart. -/

/-- What a component takes: the bytes up to the one that ends it, as far as there is room. -/
def taken (ends : UInt8 → Bool) (room : Nat) (path : List UInt8) : List UInt8 :=
  (path.takeWhile fun byte => !ends byte).take room

/-- A component takes its bytes and leaves the rest, unless there is a slash among them. -/
theorem component_eq (ends : UInt8 → Bool) (room : Nat) (path : List UInt8) :
    component ends room path =
      if slash ∈ taken ends room path then none
      else some (taken ends room path, path.drop (taken ends room path).length) := by
  fun_induction component ends room path with
  | case1 path => simp [taken]
  | case2 => simp [taken]
  | case3 room byte path ended => simp [taken, ended]
  | case4 room path goesOn =>
    have first : taken ends (room + 1) (slash :: path) = slash :: taken ends room path := by
      simp [taken, goesOn]
    rw [first, if_pos List.mem_cons_self]
  | case5 room byte path goesOn notSlash ih =>
    have first : taken ends (room + 1) (byte :: path) = byte :: taken ends room path := by
      simp [taken, goesOn]
    have slashed : slash ∈ taken ends (room + 1) (byte :: path) ↔ slash ∈ taken ends room path := by
      rw [first, List.mem_cons, or_iff_right (Ne.symm notSlash)]
    rw [ih]
    simp only [slashed]
    split
    · rfl
    · rw [first]
      rfl

theorem taken_dot (path : List UInt8) :
    taken (· == dot) 8 path = path.take (min 8 (dotPosition path)) := by
  rw [taken, List.takeWhile_eq_take_findIdx_not, List.take_take]
  simp only [Bool.not_not]
  rfl

theorem taken_all (room : Nat) (path : List UInt8) :
    taken (fun _ => false) room path = path.take room := by
  have whole : (path.takeWhile fun _ => !false) = path :=
    List.takeWhile_eq_self_iff.mpr fun _ _ => rfl
  rw [taken, whole]

theorem dotPosition_le (bytes : List UInt8) : dotPosition bytes ≤ bytes.length :=
  List.findIdx_le_length

theorem dotPosition_lt_iff {bytes : List UInt8} :
    dotPosition bytes < bytes.length ↔ dot ∈ bytes := by
  simp [dotPosition, List.findIdx_lt_length]

/-- A path is its base, then the dot and the extension, if it has a dot at all. -/
theorem drop_dotPosition {bytes : List UInt8} (dotted : dot ∈ bytes) :
    bytes.drop (dotPosition bytes) = dot :: extensionText bytes := by
  have inside := dotPosition_lt_iff.mpr dotted
  have found : (bytes[dotPosition bytes] == dot) = true :=
    List.findIdx_getElem (p := (· == dot)) (w := inside)
  rw [List.drop_eq_getElem_cons inside, beq_iff_eq.mp found, extensionText]

theorem extensionText_of_no_dot {bytes : List UInt8} (noDot : dot ∉ bytes) :
    extensionText bytes = [] := by
  have := mt dotPosition_lt_iff.mp noDot
  exact List.drop_of_length_le (by omega)

theorem baseText_of_no_dot {bytes : List UInt8} (noDot : dot ∉ bytes) : baseText bytes = bytes := by
  have := mt dotPosition_lt_iff.mp noDot
  exact List.take_of_length_le (by omega)

/-- A slash is in the base or in the extension, since it is no dot. -/
theorem slash_mem_iff {bytes : List UInt8} :
    slash ∈ bytes ↔ slash ∈ baseText bytes ∨ slash ∈ extensionText bytes := by
  by_cases dotted : dot ∈ bytes
  · have parts : bytes = baseText bytes ++ dot :: extensionText bytes := by
      rw [← drop_dotPosition dotted, baseText, List.take_append_drop]
    have other : slash ≠ dot := by decide
    calc
      slash ∈ bytes ↔ slash ∈ baseText bytes ++ dot :: extensionText bytes := by rw [← parts]
      _ ↔ slash ∈ baseText bytes ∨ slash ∈ extensionText bytes := by
        rw [List.mem_append, List.mem_cons, or_iff_right other]
  · rw [extensionText_of_no_dot dotted, baseText_of_no_dot dotted]
    simp

/-! The names that paths denote. -/

variable {bytes : List UInt8}

/-- With more than eight bytes in front of the first dot there is no name: the ninth is left
over. -/
theorem ofBytes?_of_long (long : 8 < dotPosition bytes) : ofBytes? bytes = none := by
  have inside : 8 < bytes.length := Nat.lt_of_lt_of_le long (dotPosition_le bytes)
  have ninth : bytes[8] ≠ dot := by
    have other : (bytes[8] == dot) = false := List.not_of_lt_findIdx long
    simpa using other
  have room : (bytes.take 8).length = 8 := List.length_take_of_le (Nat.le_of_lt inside)
  rw [ofBytes?, component_eq, taken_dot, Nat.min_eq_left (Nat.le_of_lt long), room,
    List.drop_eq_getElem_cons inside]
  split
  · rfl
  · exact if_neg ninth

theorem taken_base (fits : dotPosition bytes ≤ 8) : taken (· == dot) 8 bytes = baseText bytes := by
  rw [taken_dot, Nat.min_eq_right fits, baseText]

theorem length_baseText (bytes : List UInt8) : (baseText bytes).length = dotPosition bytes :=
  List.length_take_of_le (dotPosition_le bytes)

theorem ofBytes?_of_slash (fits : dotPosition bytes ≤ 8) (slashed : slash ∈ baseText bytes) :
    ofBytes? bytes = none := by
  rw [ofBytes?, component_eq, taken_base fits, if_pos slashed]
  rfl

theorem ofBytes?_of_no_dot (fits : dotPosition bytes ≤ 8) (noSlash : slash ∉ baseText bytes)
    (noDot : dot ∉ bytes) : ofBytes? bytes = some ⟨pad 8 (baseText bytes), pad 3 []⟩ := by
  have nothingLeft : bytes.drop (dotPosition bytes) = [] := by
    have := mt dotPosition_lt_iff.mp noDot
    exact List.drop_of_length_le (by omega)
  rw [ofBytes?, component_eq, taken_base fits, if_neg noSlash, length_baseText, nothingLeft]
  rfl

/-- Behind the dot comes the extension, which has to be all that is left. -/
theorem ofBytes?_of_dot (fits : dotPosition bytes ≤ 8) (noSlash : slash ∉ baseText bytes)
    (dotted : dot ∈ bytes) :
    ofBytes? bytes =
      if slash ∈ (extensionText bytes).take 3 ∨ 3 < (extensionText bytes).length then none
      else some ⟨pad 8 (baseText bytes), pad 3 (extensionText bytes)⟩ := by
  rw [ofBytes?, component_eq, taken_base fits, if_neg noSlash, length_baseText,
    drop_dotPosition dotted]
  simp only [Option.bind_eq_bind, Option.bind_some, if_true, component_eq, taken_all]
  by_cases slashed : slash ∈ (extensionText bytes).take 3
  · rw [if_pos slashed, if_pos (.inl slashed)]
    rfl
  · rw [if_neg slashed, Option.bind_some]
    -- The component takes three bytes at most, so something is left exactly if there are more.
    by_cases long : 3 < (extensionText bytes).length
    · have left : (extensionText bytes).drop ((extensionText bytes).take 3).length ≠ [] := by
        rw [List.length_take_of_le (Nat.le_of_lt long), Ne, List.drop_eq_nil_iff]
        omega
      rw [if_pos (Or.inr long)]
      exact if_neg fun isEmpty => left (List.isEmpty_iff.mp isEmpty)
    · have whole : (extensionText bytes).take 3 = extensionText bytes :=
        List.take_of_length_le (Nat.not_lt.mp long)
      rw [whole] at slashed ⊢
      rw [if_neg (not_or.mpr ⟨slashed, long⟩), List.drop_length]
      rfl

/-- The bytes that denote a name, and the name they denote. -/
theorem ofBytes?_eq_some_iff {name : ShortName} :
    ofBytes? bytes = some name ↔
      IsShort bytes ∧ name = ⟨pad 8 (baseText bytes), pad 3 (extensionText bytes)⟩ := by
  rcases Nat.lt_or_ge 8 (dotPosition bytes) with long | fits
  · rw [ofBytes?_of_long long]
    exact ⟨nofun, fun h => absurd h.1.base_le (Nat.not_le.mpr long)⟩
  · by_cases slashed : slash ∈ baseText bytes
    · rw [ofBytes?_of_slash fits slashed]
      exact ⟨nofun, fun h => absurd (slash_mem_iff.mpr (.inl slashed)) h.1.noSlash⟩
    · by_cases dotted : dot ∈ bytes
      · rw [ofBytes?_of_dot fits slashed dotted]
        split
        · rename_i refused
          refine ⟨nofun, ?_⟩
          rintro ⟨short, -⟩
          rcases refused with slashed' | long
          · exact absurd (slash_mem_iff.mpr (.inr (List.mem_of_mem_take slashed'))) short.noSlash
          · exact absurd (short.extension_le dotted) (Nat.not_le.mpr long)
        · rename_i accepted
          obtain ⟨slashed', short⟩ := not_or.mp accepted
          rw [List.take_of_length_le (Nat.not_lt.mp short)] at slashed'
          have noSlash : slash ∉ bytes := by
            rw [slash_mem_iff]
            exact not_or.mpr ⟨slashed, slashed'⟩
          rw [Option.some.injEq, eq_comm (a := name)]
          exact ⟨fun same => ⟨⟨noSlash, fits, fun _ => Nat.not_lt.mp short⟩, same⟩, And.right⟩
      · have noSlash : slash ∉ bytes := by rwa [baseText_of_no_dot dotted] at slashed
        rw [ofBytes?_of_no_dot fits slashed dotted, extensionText_of_no_dot dotted,
          Option.some.injEq, eq_comm (a := name)]
        exact ⟨fun same => ⟨⟨noSlash, fits, fun dotted' => absurd dotted' dotted⟩, same⟩, And.right⟩

/-! Fields and trailing spaces. -/

/-- A field is its text and as many spaces as there is room for. -/
theorem toList_pad {width : Nat} {text : List UInt8} (fits : text.length ≤ width) :
    (pad width text).toList = text ++ List.replicate (width - text.length) space := by
  apply List.ext_getElem
  · simp only [Vector.length_toList, List.length_append, List.length_replicate]
    omega
  · intro i _ _
    rw [Vector.getElem_toList]
    simp only [pad, Vector.getElem_ofFn, List.getD_eq_getElem?_getD, List.getElem_append]
    split
    · rename_i inside
      rw [List.getElem?_eq_getElem inside]
      rfl
    · rename_i behind
      rw [List.getElem?_eq_none (Nat.not_lt.mp behind), List.getElem_replicate]
      rfl

theorem trim_append_replicate (text : List UInt8) (n : Nat) :
    trim (text ++ List.replicate n space) = trim text := by
  have blank : ∀ byte ∈ List.replicate n space, (byte == space) = true := by
    intro byte member
    rw [List.eq_of_mem_replicate member]
    rfl
  rw [trim, List.reverse_append, List.reverse_replicate, List.dropWhile_append_of_pos blank, trim]

/-- A text is what trimming leaves of it and some spaces. -/
theorem exists_eq_trim_append (text : List UInt8) :
    ∃ n, text = trim text ++ List.replicate n space := by
  have blank : ∀ byte ∈ text.rtakeWhile (· == space), byte = space :=
    fun byte member => beq_iff_eq.mp (List.mem_rtakeWhile_imp (p := (· == space)) member)
  have parts : trim text ++ text.rtakeWhile (· == space) = text :=
    List.rdropWhile_append_rtakeWhile
  rw [List.eq_replicate_of_mem blank] at parts
  exact ⟨_, parts.symm⟩

/-- Trailing spaces make no difference to a field. -/
theorem pad_trim (width : Nat) (text : List UInt8) : pad width (trim text) = pad width text := by
  obtain ⟨n, parts⟩ := exists_eq_trim_append text
  apply Vector.ext
  intro i _
  rw [pad, pad, Vector.getElem_ofFn, Vector.getElem_ofFn]
  conv_rhs => rw [parts]
  rw [List.getD_eq_getElem?_getD, List.getD_eq_getElem?_getD]
  rcases Nat.lt_or_ge i (trim text).length with inside | behind
  · rw [List.getElem?_append_left inside]
  · rw [List.getElem?_append_right behind, List.getElem?_eq_none behind, List.getElem?_replicate]
    split <;> rfl

theorem pad_eq_pad_iff {width : Nat} {text text' : List UInt8} (fits : text.length ≤ width)
    (fits' : text'.length ≤ width) : pad width text = pad width text' ↔ trim text = trim text' := by
  constructor
  · intro same
    have fields := congrArg (fun field => trim field.toList) same
    rwa [toList_pad fits, toList_pad fits', trim_append_replicate, trim_append_replicate] at fields
  · intro same
    rw [← pad_trim, same, pad_trim]

theorem IsShort.length_baseText_le (h : IsShort bytes) : (baseText bytes).length ≤ 8 := by
  rw [length_baseText]
  exact h.base_le

theorem IsShort.length_extensionText_le (h : IsShort bytes) :
    (extensionText bytes).length ≤ 3 := by
  by_cases dotted : dot ∈ bytes
  · exact h.extension_le dotted
  · rw [extensionText_of_no_dot dotted]
    exact Nat.zero_le 3

/-- **The grammar of short names.** A path denotes a short name exactly if it has no slash, at most
eight bytes in front of its first dot and at most three behind it. The fields of the name are these
two texts, each filled up with spaces. So two paths denote the same name exactly if their bases and
their extensions are the same but for spaces at their ends. -/
theorem ofPath?_follows_grammar (path : String) :
    ((ofPath? path).isSome ↔ IsShort (encoded path)) ∧
    ∀ name, ofPath? path = some name →
      name.base.toList = baseText (encoded path) ++
        List.replicate (8 - (baseText (encoded path)).length) space ∧
      name.extension.toList = extensionText (encoded path) ++
        List.replicate (3 - (extensionText (encoded path)).length) space ∧
      ∀ path' name', ofPath? path' = some name' →
        (name = name' ↔
          trim (baseText (encoded path)) = trim (baseText (encoded path')) ∧
            trim (extensionText (encoded path)) = trim (extensionText (encoded path'))) := by
  refine ⟨?_, ?_⟩
  · rw [Option.isSome_iff_exists]
    constructor
    · rintro ⟨name, denoted⟩
      exact (ofBytes?_eq_some_iff.mp denoted).1
    · intro short
      exact ⟨_, ofBytes?_eq_some_iff.mpr ⟨short, rfl⟩⟩
  · intro name denoted
    obtain ⟨short, rfl⟩ := ofBytes?_eq_some_iff.mp denoted
    have base_le := short.length_baseText_le
    have extension_le := short.length_extensionText_le
    refine ⟨toList_pad base_le, toList_pad extension_le, ?_⟩
    intro path' name' denoted'
    obtain ⟨short', rfl⟩ := ofBytes?_eq_some_iff.mp denoted'
    rw [ShortName.mk.injEq]
    exact and_congr (pad_eq_pad_iff base_le short'.length_baseText_le)
      (pad_eq_pad_iff extension_le short'.length_extensionText_le)

/-- A space in front of the dot and spaces at the end make no difference, and later dots belong to
the extension. A slash is refused even where there is no room left for it. -/
theorem ofPath?_spaces_and_dots :
    (∃ name name', ofPath? "A .B." = some name ∧ ofPath? "A.B. " = some name' ∧ name = name' ∧
      name.extension.toList = [0x42, dot, space]) ∧
    (ofPath? "LONGNAME.EXT/").isSome = false := by
  have isShort : IsShort (encoded "A .B.") :=
    ⟨by decide +kernel, by decide +kernel, by decide +kernel⟩
  have isShort' : IsShort (encoded "A.B. ") :=
    ⟨by decide +kernel, by decide +kernel, by decide +kernel⟩
  have noShort : ¬ IsShort (encoded "LONGNAME.EXT/") :=
    fun short => short.noSlash (by decide +kernel)
  obtain ⟨name, denoted⟩ :=
    Option.isSome_iff_exists.mp ((ofPath?_follows_grammar "A .B.").1.mpr isShort)
  obtain ⟨name', denoted'⟩ :=
    Option.isSome_iff_exists.mp ((ofPath?_follows_grammar "A.B. ").1.mpr isShort')
  obtain ⟨-, extension, same⟩ := (ofPath?_follows_grammar "A .B.").2 name denoted
  refine ⟨⟨name, name', denoted, denoted', ?_, ?_⟩, ?_⟩
  · exact (same "A.B. " name' denoted').mpr ⟨by decide +kernel, by decide +kernel⟩
  · exact extension.trans (by decide +kernel)
  · exact Bool.eq_false_iff.mpr fun denotes =>
      noShort ((ofPath?_follows_grammar "LONGNAME.EXT/").1.mp denotes)

end BootDisk.ShortName
