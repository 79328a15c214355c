import BootDisk.Proofs.Bare.Volume
import BootDisk.Volume.Directory

/-!
# The root directory with bare accesses

Names are taken from a path byte after byte, with one index into the path and one into the field.
Records are cut out of the root directory region and their fields out of the records. A name that is
shown in the log loses the spaces at its end. All accesses are sound, whatever the path and the
bytes of the region are.
-/

namespace BootDisk.Bare

open Loader

/-! Names. -/

/-- Takes bytes of a path from an index on into a field, until one that `ends` holds of comes next,
the field is full or the path is over. Gives the index behind them and the field. A slash among them
is refused. -/
def takeField {width : Nat} (ends : UInt8 → Bool) (path : Bytes) (next filled : Nat)
    (field : Vector UInt8 width) : Except Fault (Option (Nat × Vector UInt8 width)) :=
  if more : filled < width ∧ next < path.size then do
    let byte ← byteAt path next
    if ends byte then
      return some (next, field)
    else if byte = ShortName.slash then
      return none
    else
      let field ← putAt field filled byte
      takeField ends path (next + 1) (filled + 1) field
  else
    return some (next, field)
termination_by width - filled

/-- The short name that the bytes of a path denote. -/
def nameOf (path : Bytes) : Except Fault (Option ShortName) := do
  match ← takeField (· == ShortName.dot) path 0 0 (Vector.replicate 8 ShortName.space) with
  | none => return none
  | some (next, base) =>
    if path[next]? = some ShortName.dot then
      match ← takeField (fun _ => false) path (next + 1) 0 (Vector.replicate 3 ShortName.space) with
      | none => return none
      | some (next, extension) =>
        return if next = path.size then some ⟨base, extension⟩ else none
    else
      return if next = path.size then some ⟨base, Vector.replicate 3 ShortName.space⟩ else none

/-- How many of the first bytes of a field stand in front of the spaces at their end. -/
def contentLength (field : Bytes) : Nat → Nat
  | 0 => 0
  | n + 1 => if field[n]? = some ShortName.space then contentLength field n else n + 1

/-- A field without the spaces at its end. -/
def trimmed (field : Bytes) : Except Fault Bytes :=
  stretch field 0 (contentLength field field.size)

/-- A name as it is shown. -/
def shown (name : ShortName) : Except Fault String := do
  let base ← trimmed name.base.toArray
  let extension ← trimmed name.extension.toArray
  let bytes := if extension.isEmpty then base else base ++ #[ShortName.dot] ++ extension
  return String.ofList (bytes.toList.map Char.ofUInt8)

/-! Records. -/

/-- The fields of a record. -/
def record (raw : Bytes) : Except Fault DirectoryEntry := do
  return {
    name := {
      base := ← fieldAt 8 raw 0 8
      extension := ← fieldAt 3 raw 8 11 }
    attributes := ← byteAt raw 11
    cluster := ← word16At raw 26 28
    size := ← word32At raw 28 32 }

/-- Whether a record is in use. -/
def isInUse (entry : DirectoryEntry) : Except Fault Bool := do
  let first ← byteAt entry.name.base.toArray 0
  return first != DirectoryEntry.unusedMark && first != DirectoryEntry.deletedMark

/-- The entries among the records of a region that have these numbers. -/
def entriesAt (region : Bytes) : List Nat → Except Fault (List DirectoryEntry)
  | [] => return []
  | i :: rest => do
    let raw ← stretch region (DirectoryEntry.recordLength * i)
      (DirectoryEntry.recordLength * i + DirectoryEntry.recordLength)
    let entry ← record raw
    let inUse ← isInUse entry
    let others ← entriesAt region rest
    return if inUse && !entry.isNameFragment then entry :: others else others

/-- The entries of the root directory. -/
def entries (v : Volume) : Loader Abort (List DirectoryEntry) := do
  let region ← ofExcept (view v v.layout.rootOffset v.layout.rootSize)
  ofAccess (entriesAt region (List.range (region.size / DirectoryEntry.recordLength)))

/-- The first of some entries that carries a name. -/
def firstNamed {ε : Type} (name : ShortName) :
    List DirectoryEntry → Loader ε (Option DirectoryEntry)
  | [] => return none
  | entry :: rest => do
    if ← equal .strict entry.name.base.toArray name.base.toArray then
      if ← equal .strict entry.name.extension.toArray name.extension.toArray then
        let _ ← ofAccess (shown entry.name)
        log (.entryFound entry)
        return some entry
    firstNamed name rest

/-- The entry of the root directory that carries a name. -/
def findNamed (v : Volume) (name : ShortName) : Loader Abort (Option DirectoryEntry) := do
  firstNamed name (← entries v)

/-- The entry of the root directory that a path denotes. -/
def lookup (v : Volume) (path : String) : Loader Abort (Option DirectoryEntry) := do
  match ← ofAccess (nameOf path.toUTF8.data) with
  | some name => findNamed v name
  | none => return none

/-! Their soundness. -/

section Names

open ShortName

/-- What a component takes stands in front of what it leaves. -/
theorem component_eq_some {ends : UInt8 → Bool} {room : Nat} {path taken left : List UInt8}
    (h : component ends room path = some (taken, left)) : path = taken ++ left := by
  fun_induction component ends room path generalizing taken left with
  | case1 path =>
    cases h
    rfl
  | case2 =>
    cases h
    rfl
  | case3 room byte path ended =>
    cases h
    rfl
  | case4 => cases h
  | case5 room byte path goesOn notSlash ih =>
    obtain ⟨⟨taken', left'⟩, found, same⟩ := Option.map_eq_some_iff.mp h
    cases same
    exact congrArg (byte :: ·) (ih found)

/-- A field that is filled up to `taken` takes one more byte. -/
theorem set_pad {width : Nat} (taken : List UInt8) (byte : UInt8) (more : taken.length < width) :
    (pad width taken).set taken.length byte = pad width (taken ++ [byte]) := by
  apply Vector.ext
  intro i inside
  rw [Vector.getElem_set]
  simp only [pad, Vector.getElem_ofFn]
  split
  · rename_i here
    subst here
    simp
  · rename_i elsewhere
    rw [List.getD_eq_getElem?_getD, List.getD_eq_getElem?_getD]
    rcases Nat.lt_or_gt_of_ne elsewhere with behind | before
    · rw [List.getElem?_eq_none (by omega), List.getElem?_eq_none (by simp; omega)]
    · rw [List.getElem?_append_left before]

theorem pad_nil (width : Nat) : pad width [] = Vector.replicate width space := by
  apply Vector.ext
  intro i inside
  simp [pad]

/-- Taking a field from a path is taking a component of the rest of the path. -/
theorem takeField_eq {width : Nat} (ends : UInt8 → Bool) (path : Bytes) (room next : Nat)
    (taken : List UInt8) (free : width = taken.length + room) :
    takeField ends path next taken.length (pad width taken) =
      .ok ((component ends room (path.toList.drop next)).map fun found =>
        (next + found.1.length, pad width (taken ++ found.1))) := by
  induction room generalizing next taken with
  | zero =>
    rw [takeField, dif_neg (by omega), component]
    simp [pure, Except.pure]
  | succ room ih =>
    rcases Nat.lt_or_ge next path.size with inside | past
    · have front : path.toList.drop next = path[next] :: path.toList.drop (next + 1) := by
        rw [List.drop_eq_getElem_cons (by simpa using inside), Array.getElem_toList]
      rw [takeField, dif_pos ⟨by omega, inside⟩, byteAt_eq_ok inside, front, component]
      simp only [bind, Except.bind]
      by_cases ended : ends path[next] = true
      · rw [if_pos ended, if_pos ended]
        simp [pure, Except.pure]
      · rw [if_neg ended, if_neg ended]
        by_cases slashed : path[next] = slash
        · rw [if_pos slashed, if_pos slashed]
          rfl
        · rw [if_neg slashed, if_neg slashed, putAt_eq_ok (by omega), set_pad _ _ (by omega)]
          have rest := ih (next + 1) (taken ++ [path[next]]) (by simp; omega)
          rw [List.length_append, List.length_singleton] at rest
          simp only [rest]
          cases component ends room (path.toList.drop (next + 1)) with
          | none => rfl
          | some found => simp [Nat.add_comm, Nat.add_left_comm]
    · have none : path.toList.drop next = [] := List.drop_of_length_le (by simpa using past)
      rw [takeField, dif_neg (by omega), none, component]
      simp [pure, Except.pure]

theorem takeField_empty {width : Nat} (ends : UInt8 → Bool) (path : Bytes) (next : Nat) :
    takeField ends path next 0 (Vector.replicate width space) =
      .ok ((component ends width (path.toList.drop next)).map fun found =>
        (next + found.1.length, pad width found.1)) := by
  rw [← pad_nil]
  exact takeField_eq ends path width next [] (Nat.zero_add width).symm

/-- A path denotes a short name with bare accesses too, or it denotes none. -/
theorem nameOf_eq (path : Bytes) : nameOf path = .ok (ofBytes? path.toList) := by
  unfold nameOf ofBytes?
  rw [takeField_empty, List.drop_zero]
  cases hasBase : component (· == dot) 8 path.toList with
  | none => rfl
  | some found =>
    obtain ⟨base, left⟩ := found
    have bytes := component_eq_some hasBase
    have size : path.size = base.length + left.length := by
      rw [← Array.length_toList, bytes, List.length_append]
    have next : path[base.length]? = left.head? := by
      rw [← Array.getElem?_toList, bytes, List.getElem?_append_right (Nat.le_refl _), Nat.sub_self,
        List.head?_eq_getElem?]
    simp only [Option.map_some, Nat.zero_add, bind, Except.bind, Option.bind, next]
    cases left with
    | nil =>
      rw [List.length_nil] at size
      rw [if_neg nofun, if_pos (by omega), pad_nil]
      rfl
    | cons byte rest =>
      rw [List.length_cons] at size
      rw [List.head?_cons]
      by_cases dotted : byte = dot
      · have behind : path.toList.drop (base.length + 1) = rest := by
          rw [bytes, List.drop_append]
          simp
        rw [if_pos (congrArg some dotted), takeField_empty, behind]
        simp only [if_pos dotted]
        cases hasExtension : component (fun _ => false) 3 rest with
        | none => rfl
        | some found =>
          obtain ⟨extension, left⟩ := found
          have length := congrArg List.length (component_eq_some hasExtension)
          rw [List.length_append] at length
          simp only [Option.map_some]
          cases left with
          | nil =>
            rw [List.length_nil] at length
            rw [if_pos (by omega)]
            rfl
          | cons byte left =>
            rw [List.length_cons] at length
            rw [if_neg (by omega)]
            rfl
      · rw [if_neg (by simpa using dotted), if_neg (by omega)]
        simp only [if_neg dotted]
        rfl

theorem contentLength_le (field : Bytes) (n : Nat) : contentLength field n ≤ n := by
  induction n with
  | zero => exact Nat.le_refl 0
  | succ n ih =>
    rw [contentLength]
    split
    · exact Nat.le_succ_of_le ih
    · exact Nat.le_refl _

/-- What is left of the first bytes of a field is what stands in front of the spaces. -/
theorem trim_take (field : Bytes) {n : Nat} (inside : n ≤ field.size) :
    trim (field.toList.take n) = field.toList.take (contentLength field n) := by
  induction n with
  | zero => rfl
  | succ n ih =>
    have last : field[n]? = some field[n] := Array.getElem?_eq_getElem inside
    have front : field.toList.take (n + 1) = field.toList.take n ++ [field[n]] := by
      rw [List.take_succ_eq_append_getElem inside, Array.getElem_toList]
    rw [contentLength, last]
    by_cases blank : field[n] = space
    · rw [if_pos (congrArg some blank), front, ← ih (Nat.le_of_succ_le inside), blank]
      simp [trim]
    · rw [if_neg (by simpa using blank), front]
      simp [trim, blank]

theorem trimmed_eq (field : Bytes) : trimmed field = .ok (trim field.toList).toArray := by
  have within := contentLength_le field field.size
  have content := trim_take field (Nat.le_refl field.size)
  rw [← Array.length_toList, List.take_length] at content
  rw [trimmed, stretch_eq_ok (Nat.zero_le _) within, content, Array.length_toList]
  apply congrArg
  apply Array.toList_inj.mp
  simp

theorem shown_eq (name : ShortName) : shown name = .ok name.display := by
  unfold shown display
  rw [trimmed_eq, trimmed_eq]
  simp only [bind, Except.bind, pure, Except.pure, Vector.toList_toArray, List.isEmpty_toArray]
  split
  · rfl
  · simp

end Names

/-! Records. -/

theorem record_eq (raw : Vector UInt8 DirectoryEntry.recordLength) :
    record raw.toArray = .ok (DirectoryEntry.decode raw) := by
  have base := fieldAt_toArray raw (show 0 + 8 ≤ 32 by decide)
  have extension := fieldAt_toArray raw (show 8 + 3 ≤ 32 by decide)
  have cluster := word16At_toArray raw (show 26 + 2 ≤ 32 by decide)
  have size := word32At_toArray raw (show 28 + 4 ≤ 32 by decide)
  unfold record
  rw [base, extension, byteAt_toArray raw (by decide), cluster, size]
  rfl

theorem isInUse_eq (entry : DirectoryEntry) : isInUse entry = .ok entry.isInUse := by
  rw [isInUse, byteAt_toArray entry.name.base (by decide)]
  rfl

theorem entriesAt_eq {region : Bytes} {numbers : List Nat}
    (inside : ∀ i ∈ numbers,
      DirectoryEntry.recordLength * i + DirectoryEntry.recordLength ≤ region.size) :
    entriesAt region numbers =
      .ok ((numbers.filterMap fun i =>
        (region.window? (DirectoryEntry.recordLength * i) DirectoryEntry.recordLength).map
          DirectoryEntry.decode).filter fun entry => entry.isInUse && !entry.isNameFragment) := by
  induction numbers with
  | nil => rfl
  | cons i rest ih =>
    obtain ⟨here, later⟩ := List.forall_mem_cons.mp inside
    obtain ⟨window, found⟩ := Option.isSome_iff_exists.mp (Bytes.window?_isSome_iff.mpr here)
    have front : (i :: rest).filterMap (fun i =>
        (region.window? (DirectoryEntry.recordLength * i) DirectoryEntry.recordLength).map
          DirectoryEntry.decode) = DirectoryEntry.decode window :: _ :=
      List.filterMap_cons_some (by rw [found]; rfl)
    rw [entriesAt, stretch_of_window? found, front, List.filter_cons]
    simp only [bind, Except.bind, record_eq, isInUse_eq, ih later]
    rfl

theorem entries_eq (v : Volume) : entries v = ofExcept v.directory := by
  unfold entries Volume.directory
  cases found : v.slice? v.layout.rootOffset v.layout.rootSize with
  | none =>
    rw [view_of_no_slice? found]
    rfl
  | some region =>
    rw [view_of_slice? found]
    have inside : ∀ i ∈ List.range (region.toArray.size / DirectoryEntry.recordLength),
        DirectoryEntry.recordLength * i + DirectoryEntry.recordLength ≤ region.toArray.size := by
      intro i member
      have below := List.mem_range.mp member
      simp only [DirectoryEntry.recordLength] at below ⊢
      omega
    show ofAccess (entriesAt region.toArray _) = _
    rw [entriesAt_eq inside]
    rfl

theorem firstNamed_eq {ε : Type} (name : ShortName) (entries : List DirectoryEntry) :
    (firstNamed name entries : Loader ε (Option DirectoryEntry)) =
      Volume.firstNamed .strict name entries := by
  induction entries with
  | nil => rfl
  | cons entry rest ih =>
    rw [firstNamed, Volume.firstNamed]
    simp only [shown_eq, ofAccess_ok_bind, ih]

theorem findNamed_eq (v : Volume) (name : ShortName) :
    findNamed v name = v.findNamed .strict name := by
  unfold findNamed Volume.findNamed
  rw [entries_eq]
  simp only [firstNamed_eq]

theorem lookup_eq (v : Volume) (path : String) : lookup v path = v.lookup .strict path := by
  unfold lookup Volume.lookup ShortName.ofPath?
  rw [nameOf_eq, ofAccess_ok_bind]
  cases ShortName.ofBytes? path.toUTF8.data.toList with
  | none => rfl
  | some name => exact findNamed_eq v name

end BootDisk.Bare
