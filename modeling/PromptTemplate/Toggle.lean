import PromptTemplate.Directive
import PromptTemplate.Offset

/-!
Toggle tags and toggle blocks. A block runs from an opening tag to the first closing tag
that repeats its name character for character, and what lies between them is its body.
Blocks do not nest: no block is looked for inside another one.
-/

set_option autoImplicit false
set_option relaxedAutoImplicit false

namespace PromptTemplate

/-- Which end of a block a tag marks. -/
inductive TagRole where
  | opening
  | closing
deriving DecidableEq, Repr

/-- What a tag begins with, up to its name. -/
def TagRole.mark : TagRole → Text
  | .opening => openMark ++ Kind.toggle.keyword ++ [':']
  | .closing => openMark ++ '/' :: Kind.toggle.keyword ++ [':']

/-- A toggle tag with its name as it is written. -/
structure ToggleTag where
  role : TagRole
  writtenName : Text
deriving DecidableEq, Repr

namespace ToggleTag

def name (tag : ToggleTag) : Text := Text.trim tag.writtenName

def source (tag : ToggleTag) : Text := tag.role.mark ++ tag.writtenName ++ closeMark

/-- The tag of a role at the head of a text. -/
def read? (role : TagRole) (t : Text) : Option ToggleTag :=
  (role.mark.isPrefixOf? t).bind fun inner ↦
    let name := inner.takeWhile (!endsName ·)
    if (Text.trim name).isEmpty then none
    else if closeMark.isPrefixOf (inner.dropWhile (!endsName ·)) then some ⟨role, name⟩
    else none

/-- The tag of a role at an offset, cut out behind its mark and behind its name. -/
def readAt (role : TagRole) (t : Text) (start : Nat) : Except Misstep (Option ToggleTag) :=
  match Text.splitAt? start t with
  | none => .ok none
  | some (_, head) =>
    if role.mark.isPrefixOf head then do
      let (_, behind) ← t.cut (start + role.mark.width)
      if (behind.dropWhile (!endsName ·)).isEmpty then .ok none
      else do
        let (name, rest) ← Text.cut behind (Text.width (behind.takeWhile (!endsName ·)))
        .ok (if (Text.trim name).isEmpty || !closeMark.isPrefixOf rest then none
          else some ⟨role, name⟩)
    else .ok none

/-- The tags of a role in a text, paired or not. -/
def all (role : TagRole) (t : Text) : List (Placed ToggleTag) :=
  Scan.items (read? role) source t

end ToggleTag

/-- A toggle block. -/
structure ToggleBlock where
  writtenName : Text
  body : Text
deriving DecidableEq, Repr

namespace ToggleBlock

def name (b : ToggleBlock) : Text := Text.trim b.writtenName

def openingTag (b : ToggleBlock) : Text := ToggleTag.source ⟨.opening, b.writtenName⟩

def closingTag (b : ToggleBlock) : Text := ToggleTag.source ⟨.closing, b.writtenName⟩

def source (b : ToggleBlock) : Text := b.openingTag ++ b.body ++ b.closingTag

/-- The block at the head of a text. -/
def read? (t : Text) : Option ToggleBlock :=
  (ToggleTag.read? .opening t).bind fun tag ↦
    (Text.before? (ToggleTag.source ⟨.closing, tag.writtenName⟩)
      (t.drop tag.source.length)).map fun body ↦ ⟨tag.writtenName, body⟩

/-- The blocks of a text, leftmost first. -/
def all (t : Text) : List (Placed ToggleBlock) := Scan.items read? source t

/-- Where the body of a placed block lies. -/
def bodySpan (b : Placed ToggleBlock) : Span :=
  let start := b.span.start + b.item.openingTag.width
  ⟨start, start + b.item.body.width⟩

/-- The body of the block that a span covers. The span has to begin with an opening tag of
the text and to end with the closing tag of that name. -/
def bodyAt (arithmetic : Arithmetic) (t : Text) (s : Span) : Except Misstep (Option Span) :=
  match s.slice? t with
  | none => .ok none
  | some covered => do
    match ← ToggleTag.readAt .opening t s.start with
    | none => .ok none
    | some tag =>
      let closing := ToggleTag.source ⟨.closing, tag.writtenName⟩
      if closing.isSuffixOf covered then do
        let start := s.start + tag.source.width
        let stop ← arithmetic.minus s.stop closing.width
        .ok (if start ≤ stop then some ⟨start, stop⟩ else none)
      else .ok none

end ToggleBlock

end PromptTemplate
