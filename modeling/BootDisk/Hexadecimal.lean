/-!
# Hexadecimal numerals

Offsets and addresses are shown with a `0x` and lower-case digits, as few as the number needs.
Single bytes are shown as exactly two upper-case digits.
-/

namespace BootDisk.Hexadecimal

/-- A number as `0x` and its lower-case digits; zero is `0x0`. -/
def number (n : Nat) : String :=
  "0x" ++ String.ofList (Nat.toDigits 16 n)

/-- The upper-case digit of a number below sixteen. -/
def upperDigit (n : Nat) : Char :=
  if n < 10 then Char.ofNat ('0'.toNat + n) else Char.ofNat ('A'.toNat + (n - 10))

/-- A byte as two upper-case digits. -/
def byte (b : UInt8) : String :=
  String.ofList [upperDigit (b.toNat / 16), upperDigit (b.toNat % 16)]

end BootDisk.Hexadecimal
