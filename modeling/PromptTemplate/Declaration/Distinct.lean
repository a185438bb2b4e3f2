import PromptTemplate.Declaration
import PromptTemplate.Ordering

/-!
One declaration for each control. `collapse` keeps the first declaration of each kind and
name and gives it the places of all of them; `distinct` does so for a whole document, with
the controls inside toggles next to those outside, and lists each place once.
-/

set_option autoImplicit false
set_option relaxedAutoImplicit false

namespace PromptTemplate.Declaration

/-- Whether two declarations declare the same control. -/
def sameControl (d other : Declaration) : Bool := d.key == other.key

/-- The first declaration of each control, in order. -/
def firsts : List Declaration → List Declaration
  | [] => []
  | d :: ds => d :: (firsts ds).filter fun other ↦ !sameControl d other

/-- The first declaration of each control with the places of all its declarations. -/
def collapse (ds : List Declaration) : List Declaration :=
  (firsts ds).map fun d ↦
    { d with occurrences := (ds.filter (sameControl d)).flatMap spans }

/-- Declarations in the order of where they start. -/
def inOrder (ds : List Declaration) : List Declaration :=
  sortBy (fun a b ↦ a.span.start ≤ b.span.start) ds

/-- Each declaration followed by those nested in it. -/
def flatten (ds : List Declaration) : List Declaration := ds.flatMap fun d ↦ d :: d.nested

/-- A list without its elements that repeat the one before them. -/
def dropRepeats : List Span → List Span
  | [] => []
  | s :: rest =>
    match dropRepeats rest with
    | [] => [s]
    | s' :: rest' => if s = s' then s' :: rest' else s :: s' :: rest'

/-- Spans in their order, each of them once. -/
def spanSet (spans : List Span) : List Span := dropRepeats (sortBy (fun a b ↦ !b.lt a) spans)

/-- The distinct controls of a document, in the order in which they first appear. -/
def distinct (ds : List Declaration) : List Declaration :=
  (collapse (inOrder (flatten ds))).map fun d ↦
    { d with occurrences := spanSet d.occurrences }

end PromptTemplate.Declaration
