/-!
# Little-endian numbers

Every multi-byte field of a disk is stored least significant byte first. `decode` reads such a
field and `encode` writes one of a given width; `decode_encode` and `encode_decode` say that they
undo each other. The two field widths on disk are sixteen and thirty-two bits.
-/

namespace BootDisk.LittleEndian

/-- The number with these bytes, least significant first. -/
def decode : List UInt8 → Nat
  | [] => 0
  | byte :: rest => byte.toNat + 256 * decode rest

/-- The lowest `width` bytes of `n`, least significant first. -/
def encode : (width : Nat) → (n : Nat) → List UInt8
  | 0, _ => []
  | width + 1, n => UInt8.ofNat n :: encode width (n / 256)

/-- How many numbers a field of `width` bytes can hold. -/
def capacity : (width : Nat) → Nat
  | 0 => 1
  | width + 1 => 256 * capacity width

@[simp]
theorem length_encode (width n : Nat) : (encode width n).length = width := by
  induction width generalizing n with
  | zero => rfl
  | succ width ih => simp [encode, ih]

theorem decode_lt (bytes : List UInt8) : decode bytes < capacity bytes.length := by
  induction bytes with
  | nil => decide
  | cons byte rest ih =>
    have := byte.toNat_lt
    simp only [decode, List.length_cons, capacity]
    omega

/-- A number that fits its width survives being written and read. -/
theorem decode_encode {width n : Nat} (fits : n < capacity width) :
    decode (encode width n) = n := by
  induction width generalizing n with
  | zero => exact (Nat.lt_one_iff.mp fits).symm
  | succ width ih =>
    have small : n / 256 < capacity width := by
      rw [capacity] at fits; omega
    simp only [encode, decode, ih small, UInt8.toNat_ofNat']
    omega

/-- Every field is the written form of the number it holds. -/
theorem encode_decode (bytes : List UInt8) : encode bytes.length (decode bytes) = bytes := by
  induction bytes with
  | nil => rfl
  | cons byte rest ih =>
    have := byte.toNat_lt
    have low : UInt8.ofNat (byte.toNat + 256 * decode rest) = byte := by
      apply UInt8.toNat_inj.mp
      simp only [UInt8.toNat_ofNat']
      omega
    have high : (byte.toNat + 256 * decode rest) / 256 = decode rest := by omega
    simp [encode, decode, low, high, ih]

/-- The sixteen-bit number in two bytes. -/
def word16 (low high : UInt8) : UInt16 :=
  UInt16.ofNat (decode [low, high])

/-- The thirty-two-bit number in four bytes. -/
def word32 (b₀ b₁ b₂ b₃ : UInt8) : UInt32 :=
  UInt32.ofNat (decode [b₀, b₁, b₂, b₃])

theorem toNat_word16 (low high : UInt8) : (word16 low high).toNat = decode [low, high] := by
  have fits : decode [low, high] < 0x10000 := decode_lt [low, high]
  rw [word16, UInt16.toNat_ofNat', Nat.mod_eq_of_lt (by omega)]

theorem toNat_word32 (b₀ b₁ b₂ b₃ : UInt8) :
    (word32 b₀ b₁ b₂ b₃).toNat = decode [b₀, b₁, b₂, b₃] := by
  have fits : decode [b₀, b₁, b₂, b₃] < 0x100000000 := decode_lt [b₀, b₁, b₂, b₃]
  rw [word32, UInt32.toNat_ofNat', Nat.mod_eq_of_lt (by omega)]

/-- A sixteen-bit number survives being written and read. -/
theorem word16_encode (n : UInt16) :
    word16 (UInt8.ofNat n.toNat) (UInt8.ofNat (n.toNat / 256)) = n := by
  have fits : n.toNat < capacity 2 := n.toNat_lt
  rw [← UInt16.toNat_inj, toNat_word16]
  exact decode_encode fits

/-- A thirty-two-bit number survives being written and read. -/
theorem word32_encode (n : UInt32) :
    word32 (UInt8.ofNat n.toNat) (UInt8.ofNat (n.toNat / 256)) (UInt8.ofNat (n.toNat / 256 / 256))
      (UInt8.ofNat (n.toNat / 256 / 256 / 256)) = n := by
  have fits : n.toNat < capacity 4 := n.toNat_lt
  rw [← UInt32.toNat_inj, toNat_word32]
  exact decode_encode fits

end BootDisk.LittleEndian
