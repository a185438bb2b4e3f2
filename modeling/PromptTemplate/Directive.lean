import PromptTemplate.Scan
import PromptTemplate.Kind
import PromptTemplate.Text.Blank

/-!
Directives, `{{keyword:name}}` or `{{keyword:name:rest}}`. Neither the keyword nor the name
holds a colon or a closing brace, both hold something that is not blank, and the rest holds
no closing brace. So the parts of a directive are determined by its source.
-/

set_option autoImplicit false
set_option relaxedAutoImplicit false

namespace PromptTemplate

/-- What opens a directive. -/
def openMark : Text := ['{', '{']

/-- What closes a directive. -/
def closeMark : Text := ['}', '}']

/-- Whether a character ends a keyword or a name. -/
def endsName (c : Char) : Bool := c == ':' || c == '}'

/-- A directive as it is written, blanks included. -/
structure Directive where
  writtenKeyword : Text
  writtenName : Text
  rest : Option Text
deriving DecidableEq, Repr

namespace Directive

def keyword (d : Directive) : Text := Text.trim d.writtenKeyword

def name (d : Directive) : Text := Text.trim d.writtenName

def kind? (d : Directive) : Option Kind := Kind.ofKeyword? d.keyword

/-- The characters that spell a directive. -/
def source (d : Directive) : Text :=
  openMark ++ d.writtenKeyword ++ ':' :: d.writtenName ++
    (match d.rest with
    | some rest => ':' :: rest
    | none => []) ++ closeMark

/-- What follows a name: nothing or a colon and the rest, and then the closing mark. -/
def readRest? : Text → Option (Option Text)
  | ':' :: t =>
    match t.dropWhile (· != '}') with
    | '}' :: '}' :: _ => some (some (t.takeWhile (· != '}')))
    | _ => none
  | '}' :: '}' :: _ => some none
  | _ => none

/-- The directive at the head of a text, whatever its keyword. -/
def read? (t : Text) : Option Directive :=
  (openMark.isPrefixOf? t).bind fun inner ↦
    let keyword := inner.takeWhile (!endsName ·)
    match inner.dropWhile (!endsName ·) with
    | ':' :: afterKeyword =>
      let name := afterKeyword.takeWhile (!endsName ·)
      if (Text.trim keyword).isEmpty || (Text.trim name).isEmpty then none
      else
        (readRest? (afterKeyword.dropWhile (!endsName ·))).map fun rest ↦
          ⟨keyword, name, rest⟩
    | _ => none

/-- Whether a keyword looks like a word: ASCII letters and digits, underscores, hyphens. -/
def isWord (keyword : Text) : Bool :=
  keyword.all fun c ↦ c.isAlphanum || c == '_' || c == '-'

/-- The directives of a text whose keyword names a kind. -/
def known (t : Text) : List (Placed Directive) :=
  Scan.items (fun t ↦ (read? t).filter (·.kind?.isSome)) source t

/-- The directives of a text whose keyword is a word, whether it names a kind or not. -/
def wordy (t : Text) : List (Placed Directive) :=
  Scan.items (fun t ↦ (read? t).filter fun d ↦ isWord d.keyword) source t

end Directive

end PromptTemplate
