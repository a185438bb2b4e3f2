import PromptTemplate.Number.Integer

/-!
Half-open ranges of byte offsets. A span that a reader produces has its ends in order; one
that comes from elsewhere may have them in any order, and then it is empty, whatever it
contains or overlaps by its ends alone.
-/

set_option autoImplicit false
set_option relaxedAutoImplicit false

namespace PromptTemplate

/-- The bytes from `start` up to but not including `stop`. -/
structure Span where
  start : Nat
  stop : Nat
deriving DecidableEq, Repr

namespace Span

/-- The number of bytes, none if the ends are not in order. -/
def length (s : Span) : Nat := s.stop - s.start

def isEmpty (s : Span) : Bool := s.length == 0

/-- Whether both ends of the other span lie within this one. -/
def contains (s other : Span) : Bool := s.start ≤ other.start && other.stop ≤ s.stop

/-- Whether each span starts before the other one stops. -/
def overlaps (s other : Span) : Bool := s.start < other.stop && other.start < s.stop

/-- The span moved right. -/
def shift (s : Span) (offset : Nat) : Span := ⟨s.start + offset, s.stop + offset⟩

/-- The order by start, then by end. -/
def lt (s other : Span) : Bool :=
  s.start < other.start || (s.start == other.start && s.stop < other.stop)

/-- The slice of a text that a span covers. -/
def slice? (s : Span) (t : Text) : Option Text := t.slice? s.start s.stop

def text (s : Span) : Text := Natural.text s.start ++ ['.', '.'] ++ Natural.text s.stop

end Span

end PromptTemplate
