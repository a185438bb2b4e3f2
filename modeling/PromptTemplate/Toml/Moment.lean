import PromptTemplate.Number.Integer

/-!
Dates and times as TOML has them: a date, a time, or both with an optional offset from
universal time. Months have their days, the second of a leap second is allowed, and a time
may do without seconds, which are none then. `ofText?` reads the forms that a document may
use, of which `text` writes one: `T` between date and time, `Z` for universal time, seconds
in any case, and a fraction of a second if it is not zero, without zeros at its end.
-/

set_option autoImplicit false
set_option relaxedAutoImplicit false

namespace PromptTemplate.Toml

/-- A day of the calendar. -/
structure Date where
  year : Nat
  month : Nat
  day : Nat
deriving DecidableEq, Repr

/-- A time of the day. -/
structure Time where
  hour : Nat
  minute : Nat
  second : Nat
  nanosecond : Nat
deriving DecidableEq, Repr

/-- What a time is ahead of universal time: nothing, or a number of minutes. -/
inductive Offset where
  | universal
  | ahead (minutes : Int)
deriving DecidableEq, Repr

/-- A date, a time, or a date and a time. -/
inductive Moment where
  | date (day : Date)
  | time (clock : Time)
  | dateTime (day : Date) (clock : Time) (offset : Option Offset)
deriving DecidableEq, Repr

/-- A number of exactly two digits at the head of a text, within bounds, and the rest. -/
def readTwo? (least greatest : Nat) : Text → Option (Nat × Text)
  | a :: b :: t =>
    (Natural.ofDigits? [a, b]).bind fun n ↦
      if least ≤ n ∧ n ≤ greatest then some (n, t) else none
  | _ => none

/-- A given character at the head of a text; the rest. -/
def readMark? (mark : Char) : Text → Option Text
  | c :: t => if c = mark then some t else none
  | [] => none

namespace Date

def isLeapYear (year : Nat) : Bool := year % 4 == 0 && (year % 100 != 0 || year % 400 == 0)

def daysOfMonth (year month : Nat) : Nat :=
  if month = 2 then if isLeapYear year then 29 else 28
  else if month ∈ [4, 6, 9, 11] then 30
  else 31

/-- A date at the head of a text, and the rest. -/
def read? : Text → Option (Date × Text)
  | a :: b :: c :: d :: t => do
    let year ← Natural.ofDigits? [a, b, c, d]
    let t ← readMark? '-' t
    let (month, t) ← readTwo? 1 12 t
    let t ← readMark? '-' t
    let (day, t) ← readTwo? 1 (daysOfMonth year month) t
    pure (⟨year, month, day⟩, t)
  | _ => none

end Date

namespace Time

/-- The nanoseconds of a fraction, of which digits behind the ninth one are left out. -/
def nanoseconds (fraction : Text) : Nat :=
  Nat.ofDigitChars 10 ((fraction ++ List.replicate 9 '0').take 9) 0

/-- The fraction of a second at the head of a text as nanoseconds, and the rest. -/
def readFraction? : Text → Option (Nat × Text)
  | '.' :: t =>
    let digits := t.takeWhile Char.isDigit
    if digits.isEmpty then none else some (nanoseconds digits, t.dropWhile Char.isDigit)
  | t => some (0, t)

/-- A time at the head of a text, and the rest. -/
def read? (t : Text) : Option (Time × Text) := do
  let (hour, t) ← readTwo? 0 23 t
  let t ← readMark? ':' t
  let (minute, t) ← readTwo? 0 59 t
  match t with
  | ':' :: t =>
    let (second, t) ← readTwo? 0 60 t
    let (nanosecond, t) ← readFraction? t
    pure (⟨hour, minute, second, nanosecond⟩, t)
  | t => pure (⟨hour, minute, 0, 0⟩, t)

end Time

/-- The offset that a text spells, or none if it is empty. -/
def Offset.ofText? : Text → Option (Option Offset)
  | [] => some none
  | ['Z'] => some (some .universal)
  | ['z'] => some (some .universal)
  | sign :: t => do
    let (hours, t) ← readTwo? 0 23 t
    let t ← readMark? ':' t
    let (minutes, t) ← readTwo? 0 59 t
    let size : Int := (60 * hours + minutes : Nat)
    match sign, t with
    | '+', [] => some (some (.ahead size))
    | '-', [] => some (some (.ahead (-size)))
    | _, _ => none

/-- The moment that a text spells. -/
def Moment.ofText? (t : Text) : Option Moment :=
  match Date.read? t with
  | some (day, []) => some (.date day)
  | some (day, separator :: t) =>
    if separator = 'T' ∨ separator = 't' ∨ separator = ' ' then do
      let (clock, t) ← Time.read? t
      let offset ← Offset.ofText? t
      pure (.dateTime day clock offset)
    else none
  | none =>
    match Time.read? t with
    | some (clock, []) => some (.time clock)
    | _ => none

/-! ### Writing -/

/-- A number with zeros in front up to a number of digits. -/
def padded (digits n : Nat) : Text :=
  let t := Natural.text n
  List.replicate (digits - t.length) '0' ++ t

def Date.text (date : Date) : Text :=
  padded 4 date.year ++ '-' :: padded 2 date.month ++ '-' :: padded 2 date.day

/-- The fraction of a second behind its point, or nothing if it is zero. -/
def Time.fractionText (nanosecond : Nat) : Text :=
  if nanosecond = 0 then []
  else '.' :: ((padded 9 nanosecond).reverse.dropWhile (· == '0')).reverse

def Time.text (time : Time) : Text :=
  padded 2 time.hour ++ ':' :: padded 2 time.minute ++ ':' :: padded 2 time.second ++
    fractionText time.nanosecond

def Offset.text : Offset → Text
  | .universal => ['Z']
  | .ahead n =>
    (if n < 0 then '-' else '+') ::
      padded 2 (n.natAbs / 60) ++ ':' :: padded 2 (n.natAbs % 60)

def Moment.text : Moment → Text
  | .date day => day.text
  | .time clock => clock.text
  | .dateTime day clock offset =>
    day.text ++ 'T' :: clock.text ++
      match offset with
      | none => []
      | some offset => offset.text

end PromptTemplate.Toml
