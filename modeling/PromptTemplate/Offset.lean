import PromptTemplate.Span

/-!
Steps on byte offsets. Offsets are machine words: a difference below zero either ends the
program or wraps around, depending on how it was built. A cut of a text has to be between two
characters of it, and a slice has to have its ends in order as well; one that is asked for
elsewhere ends the program in any case.
-/

set_option autoImplicit false
set_option relaxedAutoImplicit false

namespace PromptTemplate

/-- A step on offsets that cannot be carried out. -/
inductive Misstep where
  | belowZero (minuend subtrahend : Nat)
  | noCut (offset : Nat)
  | noSlice (span : Span)
deriving DecidableEq, Repr

namespace Misstep

/-- What is told when the program ends at a step. -/
def message : Misstep → Text
  | .belowZero .. => "attempt to subtract with overflow".toList
  | .noCut offset => "no character begins at byte ".toList ++ Natural.text offset
  | .noSlice span => "no slice of the text at bytes ".toList ++ span.text

end Misstep

/-- How differences of offsets are taken: checked, or wrapping around in a word that holds as
many numbers as its size. -/
inductive Arithmetic where
  | checked
  | wrapping (size : Nat)
deriving DecidableEq, Repr

/-- The difference of two offsets. -/
def Arithmetic.minus : Arithmetic → Nat → Nat → Except Misstep Nat
  | .checked, m, n => if n ≤ m then .ok (m - n) else .error (.belowZero m n)
  | .wrapping size, m, n => .ok ((m + size - n) % size)

namespace Text

/-- The two parts of a text at an offset. -/
def cut (t : Text) (offset : Nat) : Except Misstep (Text × Text) :=
  match splitAt? offset t with
  | some parts => .ok parts
  | none => .error (.noCut offset)

/-- The part of a text that a span covers. -/
def slice (t : Text) (s : Span) : Except Misstep Text :=
  match s.slice? t with
  | some part => .ok part
  | none => .error (.noSlice s)

/-- A text with another one in the place of a span. -/
def replace (t : Text) (s : Span) (replacement : Text) : Except Misstep Text :=
  match t.replaceSlice? s.start s.stop replacement with
  | some output => .ok output
  | none => .error (.noSlice s)

end Text

/-- A span counted from an origin. -/
def Span.countFrom (arithmetic : Arithmetic) (s : Span) (origin : Nat) : Except Misstep Span := do
  let start ← arithmetic.minus s.start origin
  let stop ← arithmetic.minus s.stop origin
  .ok ⟨start, stop⟩

end PromptTemplate
