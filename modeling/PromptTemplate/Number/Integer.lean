import PromptTemplate.Text

/-!
Integers in decimal digits. `Integer.text` writes the fewest digits with a minus sign in
front of a negative number; `Integer.signed64?` reads an optional sign and ASCII digits,
and refuses what a signed 64-bit word cannot hold.
-/

set_option autoImplicit false
set_option relaxedAutoImplicit false

namespace PromptTemplate

/-- A natural number in decimal digits. -/
def Natural.text (n : Nat) : Text := Nat.toDigits 10 n

/-- The number that a run of ASCII digits spells. An empty run spells none. -/
def Natural.ofDigits? (digits : Text) : Option Nat :=
  if digits.isEmpty then none
  else if digits.all Char.isDigit then some (Nat.ofDigitChars 10 digits 0)
  else none

namespace Integer

/-- An integer in decimal digits. -/
def text : Int → Text
  | .ofNat n => Natural.text n
  | .negSucc n => '-' :: Natural.text (n + 1)

/-- An optional sign split off: whether the sign is a minus, and what follows it. -/
def splitSign : Text → Bool × Text
  | '-' :: t => (true, t)
  | '+' :: t => (false, t)
  | t => (false, t)

/-- An integer with an optional sign in front of ASCII digits. -/
def ofText? (t : Text) : Option Int :=
  let (negative, digits) := splitSign t
  (Natural.ofDigits? digits).map fun n ↦ if negative then -(n : Int) else n

/-- Whether so many bits and a sign hold the integer. -/
def FitsSigned (bits : Nat) (n : Int) : Prop := -(Nat.pow 2 bits : Int) ≤ n ∧ n < Nat.pow 2 bits

instance (bits : Nat) (n : Int) : Decidable (FitsSigned bits n) :=
  inferInstanceAs (Decidable (_ ∧ _))

/-- Whether so many bits without a sign hold the integer. -/
def FitsUnsigned (bits : Nat) (n : Int) : Prop := 0 ≤ n ∧ n < Nat.pow 2 bits

instance (bits : Nat) (n : Int) : Decidable (FitsUnsigned bits n) :=
  inferInstanceAs (Decidable (_ ∧ _))

/-- An integer with an optional sign, if a signed 64-bit word holds it. -/
def signed64? (t : Text) : Option Int :=
  (ofText? t).filter fun n ↦ decide (FitsSigned 63 n)

end Integer

end PromptTemplate
