import PromptTemplate.Text.Distance
import PromptTemplate.Text.Lowercase

/-!
Which known name may be meant by an unknown one. Names are compared in lower case; the
similarity of two of them is one less the edit distance over the length of the longer one,
and only a similarity of a half or more counts.
-/

set_option autoImplicit false
set_option relaxedAutoImplicit false

namespace PromptTemplate.Suggestion

/-- The part of the longer of two texts that has to be edited, as a fraction. Two empty texts
differ in nothing. The fraction is exact. A score that is one less the fraction, as a floating-point
number of 64 bits, compares names of fewer than about 2²⁶ characters alike: one score is greater
than another exactly if its fraction is less. -/
structure Difference where
  distance : Nat
  length : Nat

def Difference.ofTexts (s t : Text) : Difference :=
  ⟨Text.editDistance s t, max s.length t.length⟩

/-- Whether no more than half of the longer text has to be edited. -/
def Difference.isSmall (d : Difference) : Bool := 2 * d.distance ≤ d.length

/-- Whether a difference is at most as great as another one. -/
def Difference.le (d other : Difference) : Bool :=
  d.distance * max other.length 1 ≤ other.distance * max d.length 1

/-- The difference of two names regardless of case. -/
def difference (name known : Text) : Difference :=
  .ofTexts (Text.lowercase name) (Text.lowercase known)

/-- The known name that differs least from a name, the last one of several, if one is similar
enough. -/
def nearest? (name : Text) (known : List Text) : Option Text :=
  (known.foldl (fun best candidate ↦
    let d := difference name candidate
    if !d.isSmall then best
    else
      match best with
      | none => some (candidate, d)
      | some (_, least) => if d.le least then some (candidate, d) else best)
    (none : Option (Text × Difference))).map (·.1)

end PromptTemplate.Suggestion
