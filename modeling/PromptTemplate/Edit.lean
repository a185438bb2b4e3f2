import PromptTemplate.Offset
import PromptTemplate.Ordering

/-!
Replacing parts of a text. The edits are taken from the right to the left, so the places of
those still to come are the same in the text as it was and in the text as it is by then.
An edit is left out if it covers nothing, if it reaches into the last one that was made, or
if it does not cover whole characters of the text.
-/

set_option autoImplicit false
set_option relaxedAutoImplicit false

namespace PromptTemplate

/-- A text to put in the place of a span. -/
structure Edit where
  span : Span
  replacement : Text
deriving DecidableEq, Repr

namespace Edit

/-- Edits from the right to the left; those that start together keep their order. -/
def rightmostFirst (edits : List Edit) : List Edit :=
  sortBy (fun a b ↦ b.span.start ≤ a.span.start) edits

/-- Whether an edit can be made in a text of which only the bytes before a limit are left. -/
def fits (source : Text) (limit : Nat) (e : Edit) : Bool :=
  !e.span.isEmpty && e.span.stop ≤ limit && (e.span.slice? source).isSome

/-- Makes the edits that fit, each of them left of the one before. -/
def applyEach (source : Text) (limit : Nat) (output : Text) : List Edit → Except Misstep Text
  | [] => .ok output
  | e :: rest =>
    if e.fits source limit then do
      let output ← output.replace e.span e.replacement
      applyEach source e.span.start output rest
    else applyEach source limit output rest

/-- The text with the edits made that fit. -/
def splice (source : Text) (edits : List Edit) : Except Misstep Text :=
  applyEach source source.width source (rightmostFirst edits)

end Edit

end PromptTemplate
