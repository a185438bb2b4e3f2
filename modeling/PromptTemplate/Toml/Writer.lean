import PromptTemplate.Toml
import PromptTemplate.Number.Shortest
import PromptTemplate.Text.Hexadecimal

/-!
Writing TOML keys, strings and numbers. A string has four written forms, of which the
literal ones hold the text as it is; the first form that needs no escapes is taken, and if
every form needs some, the basic form with escapes. A number is always written as one with a
fraction, so it is read back as a number of the same sort.
-/

set_option autoImplicit false
set_option relaxedAutoImplicit false

namespace PromptTemplate.Toml

/-- The four written forms of a string. -/
inductive StringForm where
  | basic
  | literal
  | multiLineBasic
  | multiLineLiteral
deriving DecidableEq, Repr

/-- Controls that only an escape can write. A tab or a line feed can stand as itself. -/
def needsEscape (c : Char) : Bool := (c.toNat < 32 && c != '\t' && c != '\n') || c.toNat == 127

/-- The length of the longest run of a character, the run at the head being that long
already. -/
def longestRun (c : Char) (run : Nat) : Text → Nat
  | [] => run
  | d :: t => if d = c then longestRun c (run + 1) t else max run (longestRun c 0 t)

namespace StringForm

/-- Whether a form holds a text without escapes. -/
def holdsPlainly (form : StringForm) (t : Text) : Bool :=
  !t.any needsEscape &&
    match form with
    | .basic => !t.contains '\\' && !t.contains '"' && !t.contains '\n'
    | .literal => !t.contains '\'' && !t.contains '\n'
    | .multiLineBasic => !t.contains '\\' && longestRun '"' 0 t ≤ 2
    | .multiLineLiteral => longestRun '\'' 0 t ≤ 2

/-- The form that a text is written in. -/
def ofText (t : Text) : StringForm :=
  match [basic, literal, multiLineBasic, multiLineLiteral].find? (·.holdsPlainly t) with
  | some form => form
  | none => if t.contains '\n' then multiLineBasic else basic

def isMultiLine : StringForm → Bool
  | basic => false
  | literal => false
  | multiLineBasic => true
  | multiLineLiteral => true

def quote : StringForm → Text
  | basic => ['"']
  | literal => ['\'']
  | multiLineBasic => ['"', '"', '"']
  | multiLineLiteral => ['\'', '\'', '\'']

end StringForm

/-- A character that is no quote as it stands in a basic form. -/
def escapedChar (multiLine : Bool) (c : Char) : Text :=
  match c with
  | '\x08' => ['\\', 'b']
  | '\t' => ['\\', 't']
  | '\n' => if multiLine then ['\n'] else ['\\', 'n']
  | '\x0c' => ['\\', 'f']
  | '\r' => ['\\', 'r']
  | '\\' => ['\\', '\\']
  | c =>
    if c.toNat < 32 || c.toNat == 127 then '\\' :: 'u' :: Text.upperHexadecimal c.toNat 4
    else [c]

/-- A text as it stands in a basic form, behind a run of quotes. In one line every quote is
escaped, and over several lines every third one of a run. -/
def escaped (multiLine : Bool) (run : Nat) : Text → Text
  | [] => []
  | c :: t =>
    if c = '"' then
      if multiLine && run < 2 then '"' :: escaped multiLine (run + 1) t
      else '\\' :: '"' :: escaped multiLine 0 t
    else escapedChar multiLine c ++ escaped multiLine 0 t

/-- A text in a written form. -/
def writeIn (form : StringForm) (t : Text) : Text :=
  let opening := if form.isMultiLine && t.contains '\n' then ['\n'] else []
  let inner := match form with
    | .basic => escaped false 0 t
    | .multiLineBasic => escaped true 0 t
    | .literal => t
    | .multiLineLiteral => t
  form.quote ++ opening ++ inner ++ form.quote

/-- A text as a TOML string. -/
def writeText (t : Text) : Text := writeIn (.ofText t) t

/-- A text as a key, without quotes where that can be. -/
def writeKey (t : Text) : Text :=
  if !t.isEmpty && t.all (fun c ↦ c.isAlphanum || c == '_' || c == '-') then t
  else if t.any needsEscape || t.contains '\n' then writeIn .basic t
  else if !t.contains '\\' && !t.contains '"' then writeIn .basic t
  else if !t.contains '\'' then writeIn .literal t
  else writeIn .basic t

/-- A number with its sign and a fraction. The sign of what is not a number means nothing and
is left out. -/
def writeNumber : Binary64 → Text
  | .nan _ => "nan".toList
  | .infinity false => "inf".toList
  | .infinity true => "-inf".toList
  | .finite negative significand exponent _ =>
    let size := Binary64.sizeText significand exponent
    (if negative then ['-'] else []) ++ size ++ (if size.contains '.' then [] else ['.', '0'])

end PromptTemplate.Toml
