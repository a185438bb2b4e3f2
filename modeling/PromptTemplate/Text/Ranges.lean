import PromptTemplate.Text

/-!
Character properties given by tables of ranges of code points, both ends included.
-/

set_option autoImplicit false
set_option relaxedAutoImplicit false

namespace PromptTemplate.Text

/-- Whether the code point of a character lies in one of the ranges. -/
def inRanges (table : List (Nat × Nat)) (c : Char) : Bool :=
  table.any fun (first, last) ↦ first ≤ c.toNat && c.toNat ≤ last

end PromptTemplate.Text
