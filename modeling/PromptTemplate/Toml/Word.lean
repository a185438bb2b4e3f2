import PromptTemplate.Toml
import PromptTemplate.Toml.Layout
import PromptTemplate.Number.Decimal
import PromptTemplate.Text.Hexadecimal

/-!
TOML values without quotes or brackets: truth values, integers, real numbers and moments. A
word goes on to the next blank, mark or comment, and only a date takes the time behind a
blank with it.
-/

set_option autoImplicit false
set_option relaxedAutoImplicit false

namespace PromptTemplate.Toml

/-- Digits of some class with single underscores between them, without the underscores. -/
def joinDigits? (isDigit : Char → Bool) (t : Text) : Option Text :=
  let groups := t.splitOn '_'
  if groups.all fun group ↦ !group.isEmpty && group.all isDigit then some groups.flatten
  else none

/-- Decimal digits that do not begin with a zero, a zero alone excepted. -/
def decimalDigits? (t : Text) : Option Text :=
  (joinDigits? Char.isDigit t).filter fun digits ↦ digits.length == 1 || digits.head? != some '0'

/-- The number that the digits of another base spell. -/
def ofBase? (base : Nat) (t : Text) : Option Nat :=
  (joinDigits? (fun c ↦ ((Text.hexValue? c).map (decide <| · < base)).getD false) t).map
    fun digits ↦ digits.foldl (fun n c ↦ base * n + (Text.hexValue? c).getD 0) 0

/-- An integer within 128 bits. -/
def integer? (n : Int) : Option Toml :=
  if Integer.FitsSigned 127 n ∨ Integer.FitsUnsigned 128 n then some (.integer n) else none

/-- A number with a fraction or an exponent, which must not be beyond all numbers. -/
def real? (negative : Bool) (t : Text) : Option Toml := do
  let whole := t.takeWhile fun c ↦ c.isDigit || c == '_'
  let t := t.drop whole.length
  let whole ← decimalDigits? whole
  let (fraction, t) ← match t with
    | '.' :: t => do
      let fraction := t.takeWhile fun c ↦ c.isDigit || c == '_'
      pure (← joinDigits? Char.isDigit fraction, t.drop fraction.length)
    | t => pure ([], t)
  let (exponentNegative, exponent) ← match t with
    | [] => pure (false, [])
    | c :: t =>
      if c = 'e' ∨ c = 'E' then do
        let (negative, digits) := Integer.splitSign t
        pure (negative, ← joinDigits? Char.isDigit digits)
      else none
  let x := Decimal.toBinary64 ⟨whole, fraction, exponentNegative, exponent⟩ negative
  if x.isFinite then some (.real x) else none

/-- A number in words or digits without its sign. -/
def ofSize? (negative : Bool) (t : Text) : Option Toml :=
  if t = "inf".toList then some (.real (.infinity negative))
  else if t = "nan".toList then some (.real (.nan negative))
  else
    match decimalDigits? t with
    | some digits =>
      let n : Int := Nat.ofDigitChars 10 digits 0
      integer? (if negative then -n else n)
    | none => real? negative t

/-- The value that a word without quotes spells. -/
def ofWord? (t : Text) : Option Toml :=
  match t with
  | '0' :: 'x' :: digits => (ofBase? 16 digits).bind fun n ↦ integer? n
  | '0' :: 'o' :: digits => (ofBase? 8 digits).bind fun n ↦ integer? n
  | '0' :: 'b' :: digits => (ofBase? 2 digits).bind fun n ↦ integer? n
  | t =>
    if t = "true".toList then some (.bool true)
    else if t = "false".toList then some (.bool false)
    else
      match Moment.ofText? t with
      | some value => some (.moment value)
      | none =>
        let (negative, size) := Integer.splitSign t
        ofSize? negative size

/-- What ends a word without quotes. -/
def endsWord (c : Char) : Bool :=
  c == ' ' || c == '\t' || c == '\n' || c == '\r' || c == ',' || c == ']' || c == '}' ||
    c == '#' || c == '='

/-- A word without quotes at the head of a text, and the rest. A date takes the time behind a
blank with it. -/
def readWord (t : Text) : Text × Text :=
  let word := t.takeWhile (!endsWord ·)
  let rest := t.dropWhile (!endsWord ·)
  match Moment.ofText? word, rest with
  | some (.date _), ' ' :: c :: _ =>
    if c.isDigit then
      let time := rest.tail.takeWhile (!endsWord ·)
      (word ++ ' ' :: time, rest.tail.drop time.length)
    else (word, rest)
  | _, _ => (word, rest)

end PromptTemplate.Toml
