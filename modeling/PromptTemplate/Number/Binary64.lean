import PromptTemplate.Number.Integer

/-!
Binary floating-point numbers of 64 bits, given by what they stand for. A finite number is
`significand * 2 ^ exponent` with a sign, and `Binary64.ofRatio` is the one rounding rule:
the nearest number, and of two equally near ones the one with the even significand.
Everything else here is exact arithmetic followed by that rounding.
-/

set_option autoImplicit false
set_option relaxedAutoImplicit false

namespace PromptTemplate

namespace Binary64

/-- The exponent of the least numbers above zero. -/
def leastExponent : Int := -1074

/-- The greatest exponent of a finite number. -/
def greatestExponent : Int := 971

/-- The significands and exponents of finite numbers. The significand of a number is as large
as can be, unless the exponent is the least one. -/
structure IsCanonical (significand : Nat) (exponent : Int) : Prop where
  lt : significand < Nat.pow 2 53
  least_le : leastExponent ≤ exponent
  le_greatest : exponent ≤ greatestExponent
  normal : Nat.pow 2 52 ≤ significand ∨ exponent = leastExponent

instance (significand : Nat) (exponent : Int) : Decidable (IsCanonical significand exponent) :=
  decidable_of_iff
    (significand < Nat.pow 2 53 ∧ leastExponent ≤ exponent ∧ exponent ≤ greatestExponent ∧
      (Nat.pow 2 52 ≤ significand ∨ exponent = leastExponent))
    ⟨fun h ↦ ⟨h.1, h.2.1, h.2.2.1, h.2.2.2⟩,
      fun h ↦ ⟨h.lt, h.least_le, h.le_greatest, h.normal⟩⟩

theorem isCanonical_zero : IsCanonical 0 leastExponent := by decide

end Binary64

/-- A floating-point number of 64 bits. -/
inductive Binary64 where
  | nan (negative : Bool)
  | infinity (negative : Bool)
  | finite (negative : Bool) (significand : Nat) (exponent : Int)
    (canonical : Binary64.IsCanonical significand exponent)
deriving DecidableEq, Repr

namespace Binary64

def zero (negative : Bool) : Binary64 := .finite negative 0 leastExponent isCanonical_zero

def isNaN : Binary64 → Bool
  | .nan _ => true
  | _ => false

def isZero : Binary64 → Bool
  | .finite _ significand _ _ => significand == 0
  | _ => false

def isFinite : Binary64 → Bool
  | .finite .. => true
  | _ => false

def negate : Binary64 → Binary64
  | .nan negative => .nan !negative
  | .infinity negative => .infinity !negative
  | .finite negative significand exponent canonical =>
    .finite (!negative) significand exponent canonical

/-- Equality of numbers: the two zeros are equal, and what is no number equals nothing. -/
def equals (x y : Binary64) : Bool :=
  !x.isNaN && !y.isNaN && (x == y || (x.isZero && y.isZero))

/-- The quotient rounded to the nearest natural number, a half to the even neighbour. -/
def roundQuotient (numerator denominator : Nat) : Nat :=
  let quotient := numerator / denominator
  let twice := 2 * (numerator % denominator)
  if twice < denominator then quotient
  else if twice > denominator then quotient + 1
  else if quotient % 2 = 0 then quotient else quotient + 1

/-- The fraction `numerator / denominator * 2 ^ shift` with natural terms. -/
def scaled (numerator denominator : Nat) (shift : Int) : Nat × Nat :=
  match shift with
  | .ofNat n => (numerator * Nat.pow 2 n, denominator)
  | .negSucc n => (numerator, denominator * Nat.pow 2 (n + 1))

/-- The greatest `e` with `2 ^ e ≤ numerator / denominator`, for a fraction above zero. -/
def floorLog2 (numerator denominator : Nat) : Int :=
  let guess : Int := (Nat.log2 numerator : Int) - Nat.log2 denominator
  let (n, d) := scaled numerator denominator (-guess)
  if d ≤ n then guess else guess - 1

/-- The finite number of a significand and an exponent. Where it would be beyond the greatest
one it is an infinity. -/
def ofParts (negative : Bool) (significand : Nat) (exponent : Int) : Binary64 :=
  if canonical : IsCanonical significand exponent then
    .finite negative significand exponent canonical
  else .infinity negative

/-- The number nearest to a fraction, an infinity if that is beyond the greatest number. -/
def ofRatio (negative : Bool) (numerator denominator : Nat) : Binary64 :=
  if numerator = 0 then zero negative
  else
    let exponent := max (floorLog2 numerator denominator - 52) leastExponent
    let (n, d) := scaled numerator denominator (-exponent)
    let significand := roundQuotient n d
    if significand = Nat.pow 2 53 then ofParts negative (Nat.pow 2 52) (exponent + 1)
    else ofParts negative significand exponent

/-- The number nearest to an integer. -/
def ofInt (n : Int) : Binary64 := ofRatio (n < 0) n.natAbs 1

/-- The number nearest to `digits * 10 ^ exponent`. A power of ten beyond the range of
numbers is not computed. -/
def ofDecimal (negative : Bool) (digits : Nat) (exponent : Int) : Binary64 :=
  if digits = 0 then zero negative
  else
    let magnitude : Int := (Nat.toDigits 10 digits).length + exponent
    if magnitude > 400 then .infinity negative
    else if magnitude < -400 then zero negative
    else
      match exponent with
      | .ofNat n => ofRatio negative (digits * Nat.pow 10 n) 1
      | .negSucc n => ofRatio negative digits (Nat.pow 10 (n + 1))

/-- The size of a finite number as a fraction. -/
def ratio (significand : Nat) (exponent : Int) : Nat × Nat := scaled significand 1 exponent

/-- The product of the size of a finite number and a finite number, rounded. -/
def times (x y : Binary64) : Binary64 :=
  match x, y with
  | .finite s m e _, .finite s' m' e' _ =>
    let (n, d) := ratio (m * m') (e + e')
    ofRatio (s != s') n d
  | _, _ => .nan false

/-- The quotient of two finite numbers, rounded; the divisor is not zero. -/
def dividedBy (x y : Binary64) : Binary64 :=
  match x, y with
  | .finite s m e _, .finite s' m' e' _ =>
    let (n, d) := scaled m m' (e - e')
    ofRatio (s != s') n d
  | _, _ => .nan false

end Binary64

end PromptTemplate
