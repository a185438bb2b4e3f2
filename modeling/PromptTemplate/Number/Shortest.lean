import PromptTemplate.Number.Binary64

/-!
The shortest decimal digits that read back as a given number. The reals that round to a
number form an interval around it, which has its ends exactly when the significand is
even. The digits are a point of the coarsest decimal grid with a point in that interval,
the one nearest to the number, and the upper one of two equally near.
-/

set_option autoImplicit false
set_option relaxedAutoImplicit false

namespace PromptTemplate.Shortest

/-- A fraction with natural terms. -/
structure Fraction where
  numerator : Nat
  denominator : Nat

/-- `x * 10 ^ shift`. -/
def Fraction.shifted (x : Fraction) (shift : Int) : Fraction :=
  match shift with
  | .ofNat n => ⟨x.numerator * Nat.pow 10 n, x.denominator⟩
  | .negSucc n => ⟨x.numerator, x.denominator * Nat.pow 10 (n + 1)⟩

/-- The greatest `e` with `10 ^ e ≤ x`, for a fraction above zero. -/
def Fraction.floorLog10 (x : Fraction) : Int :=
  if x.denominator ≤ x.numerator then
    (Nat.toDigits 10 (x.numerator / x.denominator)).length - 1
  else
    let ceiling := (x.denominator + x.numerator - 1) / x.numerator
    (-(Nat.toDigits 10 (ceiling - 1)).length : Int)

/-- The reals that round to a number: the number and the two ends, each in quarters of the
number's unit, and whether the ends belong to it. -/
structure Interval where
  exponent : Int
  low : Nat
  value : Nat
  high : Nat
  closed : Bool

/-- Below a power of two the next number is only half as far away. -/
def Interval.ofFinite (significand : Nat) (exponent : Int) : Interval :=
  let narrow := significand = Nat.pow 2 52 ∧ Binary64.leastExponent < exponent
  { exponent := exponent - 2
    low := 4 * significand - if narrow then 1 else 2
    value := 4 * significand
    high := 4 * significand + 2
    closed := significand % 2 == 0 }

/-- A quantity given in units of an interval, on the grid of the multiples of `10 ^ place`. -/
def Interval.onGrid (i : Interval) (quarters : Nat) (place : Int) : Fraction :=
  let (n, d) := Binary64.scaled quarters 1 i.exponent
  Fraction.shifted ⟨n, d⟩ (-place)

/-- Whether the multiple `k` of `10 ^ place` lies in the interval. -/
def Interval.holds (i : Interval) (k : Nat) (place : Int) : Bool :=
  let low := i.onGrid i.low place
  let high := i.onGrid i.high place
  if i.closed then
    low.numerator ≤ k * low.denominator && k * high.denominator ≤ high.numerator
  else
    low.numerator < k * low.denominator && k * high.denominator < high.numerator

/-- The nearest multiple of `10 ^ place` that lies in the interval, if one does. -/
def Interval.nearest? (i : Interval) (place : Int) : Option Nat :=
  let x := i.onGrid i.value place
  let below := x.numerator / x.denominator
  let above := below + 1
  match i.holds below place, i.holds above place with
  | true, true =>
    if 2 * (x.numerator % x.denominator) < x.denominator then some below else some above
  | true, false => some below
  | false, true => some above
  | false, false => none

/-- The first grid with a point in the interval, from `10 ^ place` down over at most `grids`
finer ones. -/
def Interval.coarsest (i : Interval) (place : Int) : Nat → Nat × Int
  | 0 =>
    let x := i.onGrid i.value place
    (x.numerator / x.denominator, place)
  | grids + 1 =>
    match i.nearest? place with
    | some k => (k, place)
    | none => i.coarsest (place - 1) grids

/-- Digits and a power of ten whose product reads back as the finite number. Seventeen
digits always suffice. -/
def digits (significand : Nat) (exponent : Int) : Nat × Int :=
  if significand = 0 then (0, 0)
  else
    let i := Interval.ofFinite significand exponent
    let place := (i.onGrid i.value 0).floorLog10
    i.coarsest place 17

/-- `digits * 10 ^ place` written without an exponent, with no zero after the last digit of
a fraction. -/
def positional (digits : Nat) (place : Int) : Text :=
  match place with
  | .ofNat n => Natural.text (digits * Nat.pow 10 n)
  | .negSucc n =>
    let size := n + 1
    let written := Natural.text digits
    let padded := List.replicate (size + 1 - written.length) '0' ++ written
    let whole := padded.take (padded.length - size)
    let fraction := ((padded.drop (padded.length - size)).reverse.dropWhile (· == '0')).reverse
    if fraction.isEmpty then whole else whole ++ '.' :: fraction

end PromptTemplate.Shortest

namespace PromptTemplate.Binary64

/-- The size of a finite number in its shortest digits, without an exponent. -/
def sizeText (significand : Nat) (exponent : Int) : Text :=
  let (digits, place) := Shortest.digits significand exponent
  Shortest.positional digits place

/-- A number as text: whole numbers have no fraction, and both zeros are `0`. -/
def text : Binary64 → Text
  | .nan _ => "NaN".toList
  | .infinity false => "Infinity".toList
  | .infinity true => "-Infinity".toList
  | .finite negative significand exponent _ =>
    if significand = 0 then ['0']
    else (if negative then ['-'] else []) ++ sizeText significand exponent

end PromptTemplate.Binary64
