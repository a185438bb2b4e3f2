import PromptTemplate.Declaration.OfText
import PromptTemplate.Proofs.ScanPieces

/-!
Documents as they are written: literal text, flat controls, and toggles around literal text and
flat controls. The parts of a document carry the conditions under which they can be written, so
each document has a source, and `Document.declarations` and `Document.nested` say what is declared
in it and at which places, control by control.
-/

set_option autoImplicit false
set_option relaxedAutoImplicit false

namespace PromptTemplate

namespace Document

/-- A text that trimming leaves as it is and that some characters do not occur in. -/
structure Word (excluded : List Char) where
  text : Text
  trim_eq : Text.trim text = text
  plain : ∀ c ∈ text, c ∉ excluded

/-- The name of a control or the position of a slider. -/
structure Label extends Word [':', '{', '}'] where
  ne_nil : text ≠ []

/-- The default of a text control. -/
abbrev Phrase := Word ['{', '}']

/-- An option of a select. -/
abbrev Choice := Word ['|', '{', '}']

/-- Text between controls. -/
structure Literal where
  text : Text
  plain : ∀ c ∈ text, c ∉ ['{', '}']

/-- What a flat control states. A select has one option at least. -/
inductive Setting where
  | text (initial : Phrase)
  | select (first : Choice) (more : List Choice)
  | slider (position : Label) (least greatest : Int64)

structure Control where
  name : Label
  setting : Setting

/-- What may stand in the body of a toggle. -/
inductive Piece where
  | literal (l : Literal)
  | control (c : Control)

structure Toggle where
  name : Label
  body : List Piece

inductive Item where
  | piece (p : Piece)
  | toggle (g : Toggle)

end Document

/-- The items of a document, from its beginning on. -/
abbrev Document := List Document.Item

namespace Document

/-! ### How a document is written -/

def Setting.kind : Setting → Kind
  | .text _ => .text
  | .select _ _ => .select
  | .slider _ _ _ => .slider

/-- What a setting writes behind the name: a default, options between bars, or a position and the
range between colons. -/
def Setting.rest : Setting → Text
  | .text initial => initial.text
  | .select first more => ['|'].intercalate ((first :: more).map (·.text))
  | .slider position least greatest =>
    [':'].intercalate [position.text, Integer.text least.toInt, Integer.text greatest.toInt]

def Control.directive (c : Control) : Directive :=
  ⟨c.setting.kind.keyword, c.name.text, some c.setting.rest⟩

/-- A control is written `{{kind:name:rest}}`. -/
def Control.source (c : Control) : Text := c.directive.source

def Piece.source : Piece → Text
  | .literal l => l.text
  | .control c => c.source

def Toggle.block (g : Toggle) : ToggleBlock := ⟨g.name.text, g.body.flatMap Piece.source⟩

/-- A toggle is written `{{toggle:name}}body{{/toggle:name}}`. -/
def Toggle.source (g : Toggle) : Text := g.block.source

def Item.source : Item → Text
  | .piece p => p.source
  | .toggle g => g.source

/-- The text of a document. -/
def source (doc : Document) : Text := doc.flatMap Item.source

/-! ### What a document declares -/

/-- What a control declares at a place. The default of a select is its first option. -/
def Control.declaration (c : Control) (s : Span) : Declaration :=
  let plain := Declaration.single c.setting.kind c.name.text s
  match c.setting with
  | .text initial => { plain with defaultValue := initial.text }
  | .select first more =>
    { plain with defaultValue := first.text, options := (first :: more).map (·.text) }
  | .slider position least greatest =>
    { plain with
      defaultValue := position.text
      range := some ⟨least.toInt, greatest.toInt⟩ }

def Piece.declaration? : Placed Piece → Option Declaration
  | ⟨.literal _, _⟩ => none
  | ⟨.control c, s⟩ => some (c.declaration s)

/-- What a toggle declares at a place, without the controls in its body. -/
def Toggle.declaration (g : Toggle) (s : Span) : Declaration :=
  { Declaration.single .toggle g.name.text s with innerText := some g.block.body }

/-- What is declared in the body of a toggle that is written at a place. -/
def Toggle.inside (g : Toggle) (s : Span) : List Declaration :=
  (Scan.placedFrom Piece.source (s.start + g.block.openingTag.width) g.body).filterMap
    Piece.declaration?

def Item.declaration? : Placed Item → Option Declaration
  | ⟨.piece p, s⟩ => Piece.declaration? ⟨p, s⟩
  | ⟨.toggle g, s⟩ => some (g.declaration s)

/-- What is declared inside of an item, with the toggle that it is inside of. -/
def Item.nested : Placed Item → List ((Kind × Text) × Declaration)
  | ⟨.piece _, _⟩ => []
  | ⟨.toggle g, s⟩ => (g.inside s).map fun d ↦ ((.toggle, g.name.text), d)

/-- What a document declares at its top level, in the order in which it is written. -/
def declarations (doc : Document) : List Declaration :=
  (Scan.placedFrom Item.source 0 doc).filterMap Item.declaration?

/-- What a document declares inside of toggles, in the order in which it is written. -/
def nested (doc : Document) : List ((Kind × Text) × Declaration) :=
  (Scan.placedFrom Item.source 0 doc).flatMap Item.nested

end Document

end PromptTemplate
