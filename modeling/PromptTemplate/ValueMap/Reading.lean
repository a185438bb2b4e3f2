import PromptTemplate.ValueMap
import PromptTemplate.Json.Reader
import PromptTemplate.Toml.Reader

/-!
Values from JSON and TOML. Either way they are the entries of one flat table, each of them a
truth value, a number or a text; anything else in the table refuses all of it.
-/

set_option autoImplicit false
set_option relaxedAutoImplicit false

namespace PromptTemplate

/-- Why a text gives no values. -/
inductive ValuesFault where
  | malformed
  | noTable
  | unsuitable (name : Text)
deriving DecidableEq, Repr

def ValuesFault.message : ValuesFault → Text
  | .malformed => "the text does not follow the syntax of its format".toList
  | .noTable => "expected a table of values".toList
  | .unsuitable name =>
    "the value of '".toList ++ name ++ "' is not a string, a number or a boolean".toList

/-- An integer as a value, if 64 bits hold it. -/
def Value.ofInt? (n : Int) : Option Value :=
  if Integer.FitsSigned 63 n ∨ Integer.FitsUnsigned 64 n then some (.number (.ofInt n))
  else none

def Value.ofJson? : Json → Option Value
  | .bool b => some (.bool b)
  | .integer n => Value.ofInt? n
  | .real x => some (.number x)
  | .text t => some (.text t)
  | _ => none

def Value.ofToml? : Toml → Option Value
  | .bool b => some (.bool b)
  | .integer n => Value.ofInt? n
  | .real x => some (.number x)
  | .text t => some (.text t)
  | _ => none

namespace ValueMap

/-- An entry that has to be a value. -/
def entry {α : Type} (value? : α → Option Value) (entry : Text × α) :
    Except ValuesFault (Text × Value) :=
  match value? entry.2 with
  | some value => .ok (entry.1, value)
  | none => .error (.unsuitable entry.1)

/-- The map of entries that are all values; of two for a name the later one stays. -/
def ofEntries {α : Type} (value? : α → Option Value) (entries : List (Text × α)) :
    Except ValuesFault ValueMap :=
  (entries.mapM (entry value?)).map ofList

/-- The values of a JSON object. -/
def ofJsonText (t : Text) : Except ValuesFault ValueMap :=
  match Json.ofText? t with
  | none => .error .malformed
  | some (.object fields) => ofEntries Value.ofJson? fields
  | some _ => .error .noTable

/-- The values of a TOML document. -/
def ofTomlText (t : Text) : Except ValuesFault ValueMap :=
  match Toml.ofText? t with
  | none => .error .malformed
  | some entries => ofEntries Value.ofToml? entries

end ValueMap

end PromptTemplate
