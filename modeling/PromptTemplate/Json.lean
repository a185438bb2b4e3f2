import PromptTemplate.Number.Shortest
import PromptTemplate.Text.Hexadecimal

/-!
JSON values and their indented form. An object keeps its fields in the order in which they
are given. In the indented form every element and every field has a line of its own, two
spaces further in than what holds it, and an empty array or object takes no lines.
-/

set_option autoImplicit false
set_option relaxedAutoImplicit false

namespace PromptTemplate

/-- A JSON value. Whole numbers are kept apart from the others, so they stay exact. -/
inductive Json where
  | null
  | bool (value : Bool)
  | integer (value : Int)
  | real (value : Binary64)
  | text (value : Text)
  | array (items : List Json)
  | object (fields : List (Text × Json))
deriving Inhabited

namespace Json

/-- A character as it stands in a string. -/
def escapedChar (c : Char) : Text :=
  match c with
  | '"' => ['\\', '"']
  | '\\' => ['\\', '\\']
  | '\n' => ['\\', 'n']
  | '\r' => ['\\', 'r']
  | '\t' => ['\\', 't']
  | '\x08' => ['\\', 'b']
  | '\x0c' => ['\\', 'f']
  | c =>
    if c.toNat < 32 then '\\' :: 'u' :: Text.lowerHexadecimal c.toNat 4 else [c]

/-- A text as a JSON string. -/
def string (t : Text) : Text := '"' :: t.flatMap escapedChar ++ ['"']

/-- A line break and the indentation of the next line. -/
def newLine (indent : Nat) : Text := '\n' :: List.replicate (2 * indent) ' '

mutual

/-- The indented form of a value that stands at a depth. -/
def indented (depth : Nat) : Json → Text
  | .null => "null".toList
  | .bool true => "true".toList
  | .bool false => "false".toList
  | .integer n => Integer.text n
  | .real x => if x.isFinite then x.text else "null".toList
  | .text t => string t
  | .array [] => ['[', ']']
  | .array (item :: items) =>
    '[' :: newLine (depth + 1) ++ indented (depth + 1) item ++
      indentedItems (depth + 1) items ++ newLine depth ++ [']']
  | .object [] => ['{', '}']
  | .object ((name, value) :: fields) =>
    '{' :: newLine (depth + 1) ++ string name ++ ':' :: ' ' :: indented (depth + 1) value ++
      indentedFields (depth + 1) fields ++ newLine depth ++ ['}']

/-- Further elements of an array, each behind a comma. -/
def indentedItems (depth : Nat) : List Json → Text
  | [] => []
  | item :: items =>
    ',' :: newLine depth ++ indented depth item ++ indentedItems depth items

/-- Further fields of an object, each behind a comma. -/
def indentedFields (depth : Nat) : List (Text × Json) → Text
  | [] => []
  | (name, value) :: fields =>
    ',' :: newLine depth ++ string name ++ ':' :: ' ' :: indented depth value ++
      indentedFields depth fields

end

/-- The value of a field; of two with a name the last one counts. -/
def field? (name : Text) : List (Text × Json) → Option Json
  | [] => none
  | (key, value) :: fields =>
    match field? name fields with
    | some later => some later
    | none => if key = name then some value else none

end Json

end PromptTemplate
