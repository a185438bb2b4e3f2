import PromptTemplate.Json
import PromptTemplate.Number.Decimal

/-!
Reading JSON. The whole text has to be one value between blanks. A whole number that a
64-bit word holds is exact; any other number is read in two roundings, first its digits and
then their product with the power of ten, and is refused if that is beyond all numbers.
-/

set_option autoImplicit false
set_option relaxedAutoImplicit false

namespace PromptTemplate.Json

/-- What may stand between the parts of a value. -/
def isBlank (c : Char) : Bool := c == ' ' || c == '\n' || c == '\t' || c == '\r'

def skipBlanks (t : Text) : Text := t.dropWhile isBlank

/-- The character of an escape with one letter. -/
def escapeLetter? : Char → Option Char
  | '"' => some '"'
  | '\\' => some '\\'
  | '/' => some '/'
  | 'b' => some '\x08'
  | 'f' => some '\x0c'
  | 'n' => some '\n'
  | 'r' => some '\r'
  | 't' => some '\t'
  | _ => none

/-- The character that two halves of a surrogate pair stand for. -/
def pairedChar? (high low : Nat) : Option Char :=
  if 0xd800 ≤ high ∧ high < 0xdc00 ∧ 0xdc00 ≤ low ∧ low < 0xe000 then
    some (Char.ofNat (0x10000 + (high - 0xd800) * 0x400 + (low - 0xdc00)))
  else none

/-- The character of a single code unit, which must not be a surrogate. -/
def singleChar? (unit : Nat) : Option Char :=
  if 0xd800 ≤ unit ∧ unit < 0xe000 then none else some (Char.ofNat unit)

/-- The text of a string from behind its opening quote, and what follows the closing one. -/
def readString? : Text → Option (Text × Text)
  | [] => none
  | '"' :: t => some ([], t)
  | '\\' :: 'u' :: a :: b :: c :: d :: t =>
    (Text.hexNumber? [a, b, c, d]).bind fun unit ↦
      match singleChar? unit with
      | some char => (readString? t).map fun (s, rest) ↦ (char :: s, rest)
      | none =>
        match t with
        | '\\' :: 'u' :: a :: b :: c :: d :: t =>
          (Text.hexNumber? [a, b, c, d]).bind fun low ↦
            (pairedChar? unit low).bind fun char ↦
              (readString? t).map fun (s, rest) ↦ (char :: s, rest)
        | _ => none
  | '\\' :: c :: t =>
    (escapeLetter? c).bind fun char ↦
      (readString? t).map fun (s, rest) ↦ (char :: s, rest)
  | c :: t =>
    if c.toNat < 32 || c == '\\' then none
    else (readString? t).map fun (s, rest) ↦ (c :: s, rest)

/-- The digits of a number as far as a 64-bit word holds them, and the power of ten that
stands for the digits left out before the point and those taken behind it. -/
structure Digits where
  significand : Nat
  exponent : Int

def Digits.holds (n : Nat) : Bool := n < Nat.pow 2 64

/-- Takes digits before the point; from the first one that does not fit on, each counts as
a power of ten. -/
def Digits.takeWhole (d : Digits) : Text → Digits
  | [] => d
  | c :: t =>
    let longer := 10 * d.significand + (c.toNat - '0'.toNat)
    if Digits.holds longer then Digits.takeWhole { d with significand := longer } t
    else { d with exponent := d.exponent + (t.length + 1) }

/-- Takes digits behind the point, up to the first one that does not fit. -/
def Digits.takeFraction (d : Digits) : Text → Digits
  | [] => d
  | c :: t =>
    let longer := 10 * d.significand + (c.toNat - '0'.toNat)
    if Digits.holds longer then Digits.takeFraction ⟨longer, d.exponent - 1⟩ t else d

/-- A number times a power of ten, which is applied in steps of at most `10 ^ 308`. -/
def scale? (x : Binary64) (exponent : Int) : Nat → Option Binary64
  | 0 => none
  | steps + 1 =>
    if exponent.natAbs ≤ 308 then
      let power := Binary64.ofRatio false (Nat.pow 10 exponent.natAbs) 1
      if 0 ≤ exponent then (some (x.times power)).filter (·.isFinite)
      else some (x.dividedBy power)
    else if x.isZero then some x
    else if 0 ≤ exponent then none
    else scale? (x.dividedBy (Binary64.ofRatio false (Nat.pow 10 308) 1)) (exponent + 308) steps

/-- The number that a literal with a fraction or an exponent, or one beyond 64 bits, spells. -/
def real? (negative : Bool) (d : Decimal) : Option Binary64 :=
  let digits := (Digits.takeWhole ⟨0, 0⟩ d.whole).takeFraction d.fraction
  let exponent := digits.exponent + d.power
  (scale? (Binary64.ofRatio false digits.significand 1) exponent
    (exponent.natAbs / 308 + 2)).map fun x ↦ if negative then x.negate else x

/-- A number literal at the head of a text, and the rest. -/
def readNumber? (t : Text) : Option (Json × Text) :=
  let (negative, t) := match t with
    | '-' :: t => (true, t)
    | t => (false, t)
  let (whole, t) := Decimal.spanDigits t
  if whole.isEmpty || (whole.head? == some '0' && 1 < whole.length) then none
  else
    let (hasFraction, fraction, t) := match t with
      | '.' :: t => (true, Decimal.spanDigits t)
      | t => (false, [], t)
    let (hasExponent, exponentNegative, exponent, t) := match t with
      | c :: t' =>
        if c = 'e' ∨ c = 'E' then
          let (negative, t') := Integer.splitSign t'
          (true, negative, Decimal.spanDigits t')
        else (false, false, [], t)
      | [] => (false, false, [], t)
    if (hasFraction && fraction.isEmpty) || (hasExponent && exponent.isEmpty) then none
    else
      let n := Nat.ofDigitChars 10 whole 0
      if !hasFraction && !hasExponent && !negative && Digits.holds n then some (.integer n, t)
      else if !hasFraction && !hasExponent && negative && 0 < n && n ≤ Nat.pow 2 63 then
        some (.integer (-(n : Int)), t)
      else
        (real? negative ⟨whole, fraction, exponentNegative, exponent⟩).map (.real ·, t)

/-- A word at the head of a text, and the rest. -/
def readWord? (word : String) (value : Json) (t : Text) : Option (Json × Text) :=
  (word.toList.isPrefixOf? t).map (value, ·)

mutual

/-- A value at the head of a text behind blanks, and the rest. The first number bounds the
characters to read. -/
def readValue? : Nat → Text → Option (Json × Text)
  | 0, _ => none
  | fuel + 1, t =>
    match skipBlanks t with
    | '"' :: t => (readString? t).map fun (s, rest) ↦ (.text s, rest)
    | '[' :: t =>
      match skipBlanks t with
      | ']' :: t => some (.array [], t)
      | t => (readItems? fuel t).map fun (items, rest) ↦ (.array items, rest)
    | '{' :: t =>
      match skipBlanks t with
      | '}' :: t => some (.object [], t)
      | t => (readFields? fuel t).map fun (fields, rest) ↦ (.object fields, rest)
    | 't' :: t => readWord? "true" (.bool true) ('t' :: t)
    | 'f' :: t => readWord? "false" (.bool false) ('f' :: t)
    | 'n' :: t => readWord? "null" .null ('n' :: t)
    | t => readNumber? t

/-- The elements of an array up to its end. -/
def readItems? : Nat → Text → Option (List Json × Text)
  | 0, _ => none
  | fuel + 1, t =>
    (readValue? fuel t).bind fun (item, t) ↦
      match skipBlanks t with
      | ',' :: t => (readItems? fuel t).map fun (items, rest) ↦ (item :: items, rest)
      | ']' :: t => some ([item], t)
      | _ => none

/-- The fields of an object up to its end. -/
def readFields? : Nat → Text → Option (List (Text × Json) × Text)
  | 0, _ => none
  | fuel + 1, t =>
    match skipBlanks t with
    | '"' :: t =>
      (readString? t).bind fun (name, t) ↦
        match skipBlanks t with
        | ':' :: t =>
          (readValue? fuel t).bind fun (value, t) ↦
            match skipBlanks t with
            | ',' :: t =>
              (readFields? fuel t).map fun (fields, rest) ↦ ((name, value) :: fields, rest)
            | '}' :: t => some ([(name, value)], t)
            | _ => none
        | _ => none
    | _ => none

end

/-- The value that a text spells. -/
def ofText? (t : Text) : Option Json :=
  (readValue? (2 * t.length + 2) t).bind fun (value, rest) ↦
    if (skipBlanks rest).isEmpty then some value else none

end PromptTemplate.Json
