import PromptTemplate.Text

/-!
Hexadecimal digits, written in either case and read in both.
-/

set_option autoImplicit false
set_option relaxedAutoImplicit false

namespace PromptTemplate.Text

/-- A number in lower-case hexadecimal digits. -/
def hexadecimal (n : Nat) : Text := Nat.toDigits 16 n

/-- The last `size` upper-case hexadecimal digits of a number. -/
def upperHexadecimal (n : Nat) : Nat → Text
  | 0 => []
  | size + 1 => upperHexadecimal (n / 16) size ++ [(Nat.digitChar (n % 16)).toUpper]

/-- The last `size` lower-case hexadecimal digits of a number. -/
def lowerHexadecimal (n : Nat) : Nat → Text
  | 0 => []
  | size + 1 => lowerHexadecimal (n / 16) size ++ [Nat.digitChar (n % 16)]

/-- The value of a hexadecimal digit. -/
def hexValue? (c : Char) : Option Nat :=
  if c.isDigit then some (c.toNat - '0'.toNat)
  else if 'a' ≤ c ∧ c ≤ 'f' then some (c.toNat - 'a'.toNat + 10)
  else if 'A' ≤ c ∧ c ≤ 'F' then some (c.toNat - 'A'.toNat + 10)
  else none

/-- The number that hexadecimal digits spell. -/
def hexNumber? (digits : Text) : Option Nat :=
  digits.foldlM (fun n c ↦ (hexValue? c).map (16 * n + ·)) 0

end PromptTemplate.Text
