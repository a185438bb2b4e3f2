import PromptTemplate.Toggle
import PromptTemplate.Declaration.Distinct

/-!
The declarations of a text. Blocks are found first; a directive counts as written outside
of all blocks if it shares no byte with one, and the body of each block is read on its own.
Every control appears once at the top level or once inside the toggle of a name, with all
the places where it is written.
-/

set_option autoImplicit false
set_option relaxedAutoImplicit false

namespace PromptTemplate.Declaration

/-- The position of a slider that states none. -/
def standardPosition : Text := ['5', '0']

/-- The options that the rest of a select lists between bars. -/
def optionsOf : Option Text → List Text
  | none => []
  | some rest => (rest.splitOn '|').map Text.trim

/-- The position of a slider and its range: `position`, or `position:least:greatest`, where
a bound that is no integer is the standard one. -/
def sliderOf (rest : Option Text) : Text × SliderRange :=
  let parts := match rest with
    | none => []
    | some rest => (rest.splitOn ':').map Text.trim
  let position := match parts with
    | [] => standardPosition
    | first :: _ => if first.isEmpty then standardPosition else first
  let range := match parts with
    | _ :: least :: greatest :: _ =>
      { min := (Integer.signed64? least).getD SliderRange.standard.min
        max := (Integer.signed64? greatest).getD SliderRange.standard.max }
    | _ => SliderRange.standard
  (position, range)

/-- What a directive declares. A toggle is declared by a block and not by its tag. -/
def ofDirective? (d : Placed Directive) : Option Declaration :=
  d.item.kind?.bind fun kind ↦
    let plain := single kind d.item.name d.span
    match kind with
    | .text => some { plain with defaultValue := Text.trim (d.item.rest.getD []) }
    | .select =>
      let options := optionsOf d.item.rest
      some { plain with options, defaultValue := options.headD [] }
    | .slider =>
      let (position, range) := sliderOf d.item.rest
      some { plain with defaultValue := position, range := some range }
    | .toggle => none

/-- What a block declares, without the controls of its body. -/
def ofBlock (b : Placed ToggleBlock) : Declaration :=
  { single .toggle b.item.name b.span with innerText := some b.item.body }

/-- The directives of a text that share no byte with a block of it. -/
def directivesOutside (t : Text) : List (Placed Directive) :=
  let blocks := ToggleBlock.all t
  (Directive.known t).filter fun d ↦ !blocks.any fun b ↦ b.span.overlaps d.span

/-- The directives of the body of a block, at their places in the whole text. -/
def directivesInside (b : Placed ToggleBlock) : List (Placed Directive) :=
  (Directive.known b.item.body).map fun d ↦
    { d with span := d.span.shift (ToggleBlock.bodySpan b).start }

/-- The flat controls that are written outside of all blocks. -/
def outside (t : Text) : List Declaration := (directivesOutside t).filterMap ofDirective?

/-- The flat controls that are written in the body of a block. -/
def inside (b : Placed ToggleBlock) : List Declaration :=
  (directivesInside b).filterMap ofDirective?

/-- The toggles of a text, each with the flat controls of all blocks of its name. -/
def toggles (t : Text) : List Declaration :=
  let blocks := ToggleBlock.all t
  (collapse (blocks.map ofBlock)).map fun d ↦
    { d with nested := collapse ((blocks.filter (·.item.name == d.name)).flatMap inside) }

/-- The declarations of a text, in the order in which they first appear. -/
def ofText (t : Text) : List Declaration := inOrder (toggles t ++ collapse (outside t))

end PromptTemplate.Declaration
