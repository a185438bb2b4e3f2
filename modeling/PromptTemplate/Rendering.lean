import PromptTemplate.Declaration.OfText
import PromptTemplate.Edit
import PromptTemplate.ValueMap

/-!
Filling in a template. A toggle block is replaced by its body, with the controls in it
filled in, or by nothing; a control outside of the blocks is replaced by its value, or by
its default where it has none. Declarations may come from anywhere: a span that is no block
and an edit that does not fit leave the text as it is. Only a span that lies within the body of
a kept block and stops before it stops the rendering, where differences are checked.
-/

set_option autoImplicit false
set_option relaxedAutoImplicit false

namespace PromptTemplate.Rendering

/-- What is written for a flat control. -/
def written (values : ValueMap) (control : Declaration) : Text :=
  match values.get? control.name with
  | some value => value.display
  | none => control.defaultValue

/-- Whether the blocks of a toggle are kept. -/
def keeps (values : ValueMap) (toggle : Declaration) : Bool :=
  match values.get? toggle.name with
  | some value => value.isTruthy
  | none => false

/-- An edit for every place of every flat control, from the right to the left. -/
def fills (values : ValueMap) (controls : List Declaration) : List Edit :=
  Edit.rightmostFirst <|
    (controls.filter (!·.isToggle)).flatMap fun control ↦
      control.spans.map fun span ↦ ⟨span, written values control⟩

/-- Every place of every toggle with whether it is kept, from the right to the left. -/
def blocks (values : ValueMap) (controls : List Declaration) : List (Span × Bool) :=
  sortBy (fun a b ↦ b.1.start ≤ a.1.start) <|
    (controls.filter (·.isToggle)).flatMap fun toggle ↦
      toggle.spans.map fun span ↦ (span, keeps values toggle)

/-- The edits within a body, at their places in it. A span whose ends are not in order can
lie within a body and yet have an end left of it, and then it cannot be counted from there. -/
def fillsWithin (arithmetic : Arithmetic) (body : Span) (fills : List Edit) :
    Except Misstep (List Edit) :=
  (fills.filter fun fill ↦ body.contains fill.span).mapM fun fill ↦
    (fill.span.countFrom arithmetic body.start).map fun span ↦ { fill with span }

/-- The edit for one place of a toggle, if a block is there. -/
def blockEdit (arithmetic : Arithmetic) (t : Text) (fills : List Edit) (block : Span × Bool) :
    Except Misstep (Option Edit) := do
  match ← ToggleBlock.bodyAt arithmetic t block.1 with
  | none => .ok none
  | some body =>
    if block.2 then do
      let edits ← fillsWithin arithmetic body fills
      let inner ← t.slice body
      let replacement ← Edit.splice inner edits
      .ok (some ⟨block.1, replacement⟩)
    else .ok (some ⟨block.1, []⟩)

/-- The edits for all blocks. -/
def blockEdits (arithmetic : Arithmetic) (t : Text) (controls : List Declaration)
    (values : ValueMap) : Except Misstep (List Edit) :=
  ((blocks values controls).mapM (blockEdit arithmetic t (fills values controls))).map
    (·.filterMap id)

/-- Adds the fills that share no byte with an edit before them. -/
def addFills (edits fills : List Edit) : List Edit :=
  fills.foldl (fun edits fill ↦
    if edits.any fun e ↦ e.span.overlaps fill.span then edits else edits ++ [fill]) edits

/-- The template with values for the declared controls. -/
def renderWith (arithmetic : Arithmetic) (t : Text) (declarations : List Declaration)
    (values : ValueMap) : Except Misstep Text := do
  let controls := Declaration.distinct declarations
  let edits ← blockEdits arithmetic t controls values
  Edit.splice t (addFills edits (fills values controls))

end PromptTemplate.Rendering

namespace PromptTemplate

/-- The template with values for the declared controls, with differences of offsets checked. -/
def render (t : Text) (declarations : List Declaration) (values : ValueMap) :
    Except Misstep Text :=
  Rendering.renderWith .checked t declarations values

end PromptTemplate
