import PromptTemplate.Span
import PromptTemplate.Kind

/-!
Declarations of controls. A declaration stands for every place in a text where its control
is written; `span` is the first of them.
-/

set_option autoImplicit false
set_option relaxedAutoImplicit false

namespace PromptTemplate

/-- The least and the greatest position of a slider. -/
structure SliderRange where
  min : Int
  max : Int
deriving DecidableEq, Repr

/-- The range of a slider that states none. -/
def SliderRange.standard : SliderRange := ⟨0, 100⟩

/-- A control that a text declares. Options belong to a select, the range to a slider, and
the inner text and the nested declarations to a toggle. -/
structure Declaration where
  kind : Kind
  name : Text
  defaultValue : Text
  options : List Text
  range : Option SliderRange
  innerText : Option Text
  span : Span
  occurrences : List Span
  nested : List Declaration
deriving Repr

namespace Declaration

/-- A declaration that occurs at one place and states nothing but its name. -/
def single (kind : Kind) (name : Text) (span : Span) : Declaration :=
  { kind, name, defaultValue := [], options := [], range := none, innerText := none, span
    occurrences := [span], nested := [] }

/-- What tells a control from the others of a document. -/
def key (d : Declaration) : Kind × Text := (d.kind, d.name)

def isToggle (d : Declaration) : Bool := d.kind == .toggle

/-- The places to fill in: the occurrences, or the span where none are listed. -/
def spans (d : Declaration) : List Span :=
  if d.occurrences.isEmpty then [d.span] else d.occurrences

end Declaration

end PromptTemplate
