import BootDisk.LittleEndian
import BootDisk.Loader

/-!
# Bare accesses

The loader looks at bytes through windows, which show nothing where there is nothing. A *bare*
access does not ask first: it takes a byte at an index, a stretch between two positions or a
difference of two numbers, and it breaks off at a fault if there is none. Here are the bare
accesses, each with the equation for the case that it is sound. A bare run of the loader is written
with them throughout.
-/

namespace BootDisk.Bare

/-- The byte at an index. -/
def byteAt (b : Bytes) (index : Nat) : Except Fault UInt8 :=
  if inside : index < b.size then .ok b[index] else .error (.indexOutside index b.size)

/-- The field with a byte put at an index. -/
def putAt {width : Nat} (field : Vector UInt8 width) (index : Nat) (byte : UInt8) :
    Except Fault (Vector UInt8 width) :=
  if inside : index < width then .ok (field.set index byte)
  else .error (.indexOutside index width)

/-- The bytes from `start` up to `stop`. -/
def stretch (b : Bytes) (start stop : Nat) : Except Fault Bytes :=
  if start ≤ stop ∧ stop ≤ b.size then .ok (b.extract start stop)
  else .error (.stretchOutside start stop b.size)

/-- The bytes from `start` up to `stop`, if there is such a stretch. -/
def stretch? (b : Bytes) (start stop : Nat) : Option Bytes :=
  if start ≤ stop ∧ stop ≤ b.size then some (b.extract start stop) else none

/-- A field of `width` bytes that `source` is copied over. -/
def copied (width : Nat) (source : Bytes) : Except Fault (Vector UInt8 width) :=
  if same : source.size = width then .ok ⟨source, same⟩
  else .error (.unequalLengths width source.size)

/-- A number less another. -/
def difference (minuend subtrahend : Nat) :
    Except Fault { rest : Nat // rest + subtrahend = minuend } :=
  if le : subtrahend ≤ minuend then .ok ⟨minuend - subtrahend, Nat.sub_add_cancel le⟩
  else .error (.underflow minuend subtrahend)

/-- The sixteen-bit number at the start of some bytes. -/
def word16 (b : Bytes) : Except Fault UInt16 := do
  let raw ← stretch b 0 2
  return LittleEndian.word16 (← byteAt raw 0) (← byteAt raw 1)

/-- The thirty-two-bit number at the start of some bytes. -/
def word32 (b : Bytes) : Except Fault UInt32 := do
  let raw ← stretch b 0 4
  return LittleEndian.word32 (← byteAt raw 0) (← byteAt raw 1) (← byteAt raw 2) (← byteAt raw 3)

variable {b : Bytes} {start stop index : Nat}

theorem byteAt_eq_ok (inside : index < b.size) : byteAt b index = .ok b[index] :=
  dif_pos inside

theorem putAt_eq_ok {width : Nat} {field : Vector UInt8 width} {byte : UInt8}
    (inside : index < width) : putAt field index byte = .ok (field.set index byte) :=
  dif_pos inside

theorem stretch_eq_ok (order : start ≤ stop) (inside : stop ≤ b.size) :
    stretch b start stop = .ok (b.extract start stop) :=
  if_pos ⟨order, inside⟩

theorem stretch?_eq_some (order : start ≤ stop) (inside : stop ≤ b.size) :
    stretch? b start stop = some (b.extract start stop) :=
  if_pos ⟨order, inside⟩

theorem stretch?_eq_none (outside : b.size < stop) : stretch? b start stop = none :=
  if_neg (by omega)

theorem copied_eq_ok {width : Nat} {source : Bytes} (same : source.size = width) :
    copied width source = .ok ⟨source, same⟩ :=
  dif_pos same

theorem difference_eq_ok {minuend subtrahend : Nat} (le : subtrahend ≤ minuend) :
    difference minuend subtrahend = .ok ⟨minuend - subtrahend, Nat.sub_add_cancel le⟩ :=
  dif_pos le

/-- A window is the stretch it shows. -/
theorem stretch?_eq_window? (b : Bytes) (offset length : Nat) :
    stretch? b offset (offset + length) = (b.window? offset length).map (·.toArray) := by
  unfold stretch? Bytes.window?
  by_cases inside : offset + length ≤ b.size
  · rw [if_pos ⟨Nat.le_add_right .., inside⟩, dif_pos inside]
    rfl
  · rw [if_neg (by omega), dif_neg inside]
    rfl

theorem stretch_of_window? {offset length : Nat} {window : Vector UInt8 length}
    (found : b.window? offset length = some window) :
    stretch b offset (offset + length) = .ok window.toArray := by
  unfold Bytes.window? at found
  split at found
  · rename_i inside
    cases found
    exact stretch_eq_ok (Nat.le_add_right ..) inside
  · cases found

theorem size_of_stretch? {found : Bytes} (h : stretch? b start stop = some found) :
    found.size = stop - start := by
  unfold stretch? at h
  split at h
  · cases h
    rw [Array.size_extract]
    omega
  · cases h

theorem word16_eq_ok (inside : 2 ≤ b.size) : word16 b = .ok (LittleEndian.word16 b[0] b[1]) := by
  have size : (b.extract 0 2).size = 2 := by
    rw [Array.size_extract]
    omega
  rw [word16, stretch_eq_ok (Nat.zero_le _) inside]
  simp only [bind, Except.bind, pure, Except.pure]
  rw [byteAt_eq_ok (by omega), byteAt_eq_ok (by omega)]
  simp only [Array.getElem_extract, Nat.zero_add]

theorem word32_eq_ok (inside : 4 ≤ b.size) :
    word32 b = .ok (LittleEndian.word32 b[0] b[1] b[2] b[3]) := by
  have size : (b.extract 0 4).size = 4 := by
    rw [Array.size_extract]
    omega
  rw [word32, stretch_eq_ok (Nat.zero_le _) inside]
  simp only [bind, Except.bind, pure, Except.pure]
  rw [byteAt_eq_ok (by omega), byteAt_eq_ok (by omega), byteAt_eq_ok (by omega),
    byteAt_eq_ok (by omega)]
  simp only [Array.getElem_extract, Nat.zero_add]

/-- The sixteen-bit number of a stretch within some bytes. -/
def word16At (b : Bytes) (start stop : Nat) : Except Fault UInt16 := do
  word16 (← stretch b start stop)

/-- The thirty-two-bit number of a stretch within some bytes. -/
def word32At (b : Bytes) (start stop : Nat) : Except Fault UInt32 := do
  word32 (← stretch b start stop)

/-- A field that a stretch within some bytes is copied over. -/
def fieldAt (width : Nat) (b : Bytes) (start stop : Nat) : Except Fault (Vector UInt8 width) := do
  copied width (← stretch b start stop)

/-! Accesses within a field of known width. -/

variable {width : Nat} (field : Vector UInt8 width)

theorem byteAt_toArray (inside : index < width) : byteAt field.toArray index = .ok field[index] :=
  byteAt_eq_ok (by rw [field.size_toArray]; exact inside)

theorem stretch_toArray (order : start ≤ stop) (inside : stop ≤ width) :
    stretch field.toArray start stop = .ok (field.toArray.extract start stop) :=
  stretch_eq_ok order (by rw [field.size_toArray]; exact inside)

theorem word16_toArray (inside : 2 ≤ width) :
    word16 field.toArray = .ok (LittleEndian.word16 field[0] field[1]) :=
  word16_eq_ok (by rw [field.size_toArray]; exact inside)

theorem word32_toArray (inside : 4 ≤ width) :
    word32 field.toArray = .ok (LittleEndian.word32 field[0] field[1] field[2] field[3]) :=
  word32_eq_ok (by rw [field.size_toArray]; exact inside)

theorem word16At_toArray (inside : start + 2 ≤ width) :
    word16At field.toArray start (start + 2) =
      .ok (LittleEndian.word16 field[start] field[start + 1]) := by
  have size : (field.toArray.extract start (start + 2)).size = 2 := by
    rw [Array.size_extract, field.size_toArray]
    omega
  rw [word16At, stretch_toArray field (Nat.le_add_right ..) inside]
  simp only [bind, Except.bind]
  rw [word16_eq_ok (by omega)]
  simp only [Array.getElem_extract, Nat.add_zero, Vector.getElem_toArray]

theorem word32At_toArray (inside : start + 4 ≤ width) :
    word32At field.toArray start (start + 4) =
      .ok (LittleEndian.word32 field[start] field[start + 1] field[start + 2] field[start + 3]) := by
  have size : (field.toArray.extract start (start + 4)).size = 4 := by
    rw [Array.size_extract, field.size_toArray]
    omega
  rw [word32At, stretch_toArray field (Nat.le_add_right ..) inside]
  simp only [bind, Except.bind]
  rw [word32_eq_ok (by omega)]
  simp only [Array.getElem_extract, Nat.add_zero, Vector.getElem_toArray]

theorem fieldAt_toArray {length : Nat} (inside : start + length ≤ width) :
    fieldAt length field.toArray start (start + length) =
      .ok (Vector.ofFn fun i : Fin length => field[start + i]) := by
  have size : (field.toArray.extract start (start + length)).size = length := by
    rw [Array.size_extract, field.size_toArray]
    omega
  rw [fieldAt, stretch_toArray field (Nat.le_add_right ..) inside]
  simp only [bind, Except.bind]
  rw [copied_eq_ok size]
  apply congrArg
  apply Vector.ext
  intro i within
  simp

end BootDisk.Bare

namespace BootDisk.Loader

variable {ε α : Type}

/-- An access, as a step. -/
def ofAccess : Except Fault α → Loader ε α
  | .ok a => pure a
  | .error cause => fault cause

@[simp]
theorem ofExcept_ok_bind {β : Type} (a : α) (next : α → Loader ε β) :
    (ofExcept (.ok a) >>= next) = next a := rfl

/-- A sound access only gives its value. -/
@[simp]
theorem ofAccess_ok_bind {β : Type} (a : α) (next : α → Loader ε β) :
    (ofAccess (.ok a) >>= next) = next a := rfl

end BootDisk.Loader
