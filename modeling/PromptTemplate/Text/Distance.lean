import PromptTemplate.Text

/-!
The edit distance of two texts: the least number of characters to insert, delete or
replace that turns one into the other. It is computed row by row, one row for each prefix
of the first text; `editDistanceBy` is the defining recursion.
-/

set_option autoImplicit false
set_option relaxedAutoImplicit false

namespace PromptTemplate.Text

/-- The edit distance by its recursion on both texts. -/
def editDistanceBy : Text → Text → Nat
  | [], t => t.length
  | s, [] => s.length
  | c :: s, d :: t =>
    min (editDistanceBy s t + if c = d then 0 else 1)
      (min (editDistanceBy s (d :: t)) (editDistanceBy (c :: s) t) + 1)

/-- The next row of distances. `corner` is the entry of the last row above and to the left
of the first entry to compute, and `left` is the entry computed before it. -/
def nextRow (c : Char) (corner left : Nat) : Text → List Nat → List Nat
  | d :: t, above :: row =>
    let entry := min (corner + if c = d then 0 else 1) (min above left + 1)
    entry :: nextRow c above entry t row
  | _, _ => []

/-- The least number of single-character edits that turn one text into the other. -/
def editDistance (s t : Text) : Nat :=
  let first := (List.range (t.length + 1))
  let last := s.foldl (fun row c ↦
    match row with
    | [] => []
    | corner :: rest => (corner + 1) :: nextRow c corner (corner + 1) t rest) first
  last.getLastD 0

end PromptTemplate.Text
