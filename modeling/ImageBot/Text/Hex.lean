/-!
# Hexadecimal digits
-/
namespace ImageBot.Text

/-- The value of a hexadecimal digit in either case. -/
def hexValue? (b : UInt8) : Option Nat :=
  if 0x30 ≤ b ∧ b ≤ 0x39 then some (b.toNat - 0x30)
  else if 0x61 ≤ b ∧ b ≤ 0x66 then some (b.toNat - 0x57)
  else if 0x41 ≤ b ∧ b ≤ 0x46 then some (b.toNat - 0x37)
  else none

/-- A digit in lower case. -/
def hexLower (n : Nat) : Char := Char.ofNat (if n < 10 then n + 48 else n + 87)

/-- A digit in upper case. -/
def hexUpper (n : Nat) : Char := Char.ofNat (if n < 10 then n + 48 else n + 55)

end ImageBot.Text
