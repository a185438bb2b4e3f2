import PromptTemplate.Text

/-!
What stands between the parts of a TOML document: blanks, comments and ends of lines. A line
ends with a line feed, which a carriage return may precede, and a comment goes on to the end
of its line.
-/

set_option autoImplicit false
set_option relaxedAutoImplicit false

namespace PromptTemplate.Toml

/-- Blanks within a line. -/
def isBlank (c : Char) : Bool := c == ' ' || c == '\t'

def skipBlanks (t : Text) : Text := t.dropWhile isBlank

/-- Characters that may stand nowhere as themselves, but for the ends of lines. -/
def isControl (c : Char) : Bool := (c.toNat < 32 && c != '\t') || c.toNat == 127

/-- What follows the end of a line at the head of a text. -/
def afterNewLine? : Text → Option Text
  | '\n' :: t => some t
  | '\r' :: '\n' :: t => some t
  | _ => none

/-- What follows blanks, an optional comment and the end of a line, or the end of the text. -/
def afterLine? (t : Text) : Option Text :=
  let t := skipBlanks t
  let comment := match t with
    | '#' :: _ => t.takeWhile fun c ↦ c != '\n' && c != '\r'
    | _ => []
  let rest := t.drop comment.length
  if comment.any isControl then none
  else if rest.isEmpty then some []
  else afterNewLine? rest

/-- Skips blanks, comments and ends of lines. The number bounds the lines. -/
def skipLines? : Nat → Text → Option Text
  | 0, t => some t
  | lines + 1, t =>
    match skipBlanks t with
    | [] => some []
    | c :: t =>
      if c = '#' ∨ c = '\n' ∨ c = '\r' then
        (afterLine? (c :: t)).bind (skipLines? lines)
      else some (c :: t)

end PromptTemplate.Toml
