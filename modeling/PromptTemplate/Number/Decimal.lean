import PromptTemplate.Number.Binary64

/-!
Decimal literals: digits with an optional point and an optional power of ten. The same
literal is read by every format here, each with its own restrictions on top.
-/

set_option autoImplicit false
set_option relaxedAutoImplicit false

namespace PromptTemplate

/-- A decimal literal without its sign, as the digits of its parts. -/
structure Decimal where
  whole : Text
  fraction : Text
  exponentNegative : Bool
  exponent : Text

namespace Decimal

/-- The digits at the head of a text and the rest. -/
def spanDigits (t : Text) : Text × Text := (t.takeWhile Char.isDigit, t.dropWhile Char.isDigit)

/-- A literal `digits [. digits] [e [sign] digits]`, with a digit before or after the point,
that takes up the whole text. -/
def ofText? (t : Text) : Option Decimal :=
  let (whole, rest) := spanDigits t
  let (fraction, rest) :=
    match rest with
    | '.' :: rest => spanDigits rest
    | rest => ([], rest)
  if whole.isEmpty && fraction.isEmpty then none
  else
    match rest with
    | [] => some ⟨whole, fraction, false, []⟩
    | c :: rest =>
      if c = 'e' ∨ c = 'E' then
        let (negative, digits) := Integer.splitSign rest
        if digits.isEmpty || !digits.all Char.isDigit then none
        else some ⟨whole, fraction, negative, digits⟩
      else none

/-- The power of ten written after the digits. -/
def power (d : Decimal) : Int :=
  let n : Int := Nat.ofDigitChars 10 d.exponent 0
  if d.exponentNegative then -n else n

/-- The nearest floating-point number. -/
def toBinary64 (d : Decimal) (negative : Bool) : Binary64 :=
  Binary64.ofDecimal negative (Nat.ofDigitChars 10 (d.whole ++ d.fraction) 0)
    (d.power - d.fraction.length)

end Decimal

/-- A number in words or in decimal digits, with an optional sign. The words `inf`,
`infinity` and `nan` may be in any mixture of cases. -/
def Binary64.ofText? (t : Text) : Option Binary64 :=
  let (negative, size) := Integer.splitSign t
  let word := size.map Char.toLower
  if word = "inf".toList ∨ word = "infinity".toList then some (.infinity negative)
  else if word = "nan".toList then some (.nan negative)
  else (Decimal.ofText? size).map (·.toBinary64 negative)

end PromptTemplate
