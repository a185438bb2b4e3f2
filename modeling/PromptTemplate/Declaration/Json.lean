import PromptTemplate.Declaration
import PromptTemplate.Json

/-!
Declarations as JSON. Empty lists and absent parts are left out when they are written and
filled in when they are read, so reading undoes writing. The ends of a span fit 64 bits
without a sign, and the bounds of a range 64 bits with one; a reader holds them to that. A
reader also takes an array of the fields in their order for the object that has them by name,
and an object with a keyword and nothing else for the keyword of a kind.
-/

set_option autoImplicit false
set_option relaxedAutoImplicit false

namespace PromptTemplate

/-- A field that is written only if there is something to write. -/
def Json.optionalField (name : String) : Option Json → List (Text × Json)
  | none => []
  | some value => [(name.toList, value)]

/-- A field for a list that is written only if the list has an element. -/
def Json.listField (name : String) : List Json → List (Text × Json)
  | [] => []
  | items => [(name.toList, .array items)]

def Span.toJson (s : Span) : Json :=
  .object [("start".toList, .integer s.start), ("end".toList, .integer s.stop)]

def SliderRange.toJson (r : SliderRange) : Json :=
  .object [("min".toList, .integer r.min), ("max".toList, .integer r.max)]

namespace Declaration

mutual

/-- A declaration as a JSON object. -/
def toJson : Declaration → Json
  | ⟨kind, name, defaultValue, options, range, innerText, span, occurrences, nested⟩ =>
    .object <|
      [("kind".toList, .text kind.keyword), ("name".toList, .text name),
        ("default_value".toList, .text defaultValue)] ++
      Json.listField "options" (options.map .text) ++
      Json.optionalField "range" (range.map SliderRange.toJson) ++
      Json.optionalField "inner_text" (innerText.map .text) ++
      [("span".toList, span.toJson)] ++
      Json.listField "occurrences" (occurrences.map Span.toJson) ++
      Json.listField "nested" (listToJson nested)

/-- The declarations of a list, each as a JSON object. -/
def listToJson : List Declaration → List Json
  | [] => []
  | d :: ds => toJson d :: listToJson ds

end

end Declaration

namespace Json

def text? : Json → Option Text
  | .text t => some t
  | _ => none

/-- An integer that 64 bits without a sign hold. -/
def unsigned64? : Json → Option Nat
  | .integer n => if Integer.FitsUnsigned 64 n then some n.toNat else none
  | _ => none

/-- An integer that 64 bits with a sign hold. -/
def signed64? : Json → Option Int
  | .integer n => if Integer.FitsSigned 63 n then some n else none
  | _ => none

def array? : Json → Option (List Json)
  | .array items => some items
  | _ => none

/-- A field that has to be there. -/
def required? {α : Type} (read? : Json → Option α) (name : String)
    (fields : List (Text × Json)) : Option α :=
  (field? name.toList fields).bind read?

/-- A field in whose place something else may stand if it is not there. -/
def withDefault? {α : Type} (read? : Json → Option α) (name : String) (default : α)
    (fields : List (Text × Json)) : Option α :=
  match field? name.toList fields with
  | none => some default
  | some value => read? value

/-- A field that may be absent or null. -/
def nullable? {α : Type} (read? : Json → Option α) (name : String)
    (fields : List (Text × Json)) : Option (Option α) :=
  match field? name.toList fields with
  | none => some none
  | some .null => some none
  | some value => (read? value).map some

/-- The fields of a value with fields of given names. An object has them by name, and an array
in their order, in which the last ones can be absent. -/
def fields? (names : List String) : Json → Option (List (Text × Json))
  | .object fields => some fields
  | .array items =>
    if items.length ≤ names.length then some ((names.map String.toList).zip items) else none
  | _ => none

def span? (value : Json) : Option Span := do
  let fields ← fields? ["start", "end"] value
  let start ← required? unsigned64? "start" fields
  let stop ← required? unsigned64? "end" fields
  pure ⟨start, stop⟩

def sliderRange? (value : Json) : Option SliderRange := do
  let fields ← fields? ["min", "max"] value
  let least ← required? signed64? "min" fields
  let greatest ← required? signed64? "max" fields
  pure ⟨least, greatest⟩

/-- A kind by its keyword, which stands alone or as the name of a field without a value. -/
def kind? : Json → Option Kind
  | .text keyword => Kind.ofKeyword? keyword
  | .object [(keyword, .null)] => Kind.ofKeyword? keyword
  | _ => none

/-- A list of which every element can be read. -/
def list? {α : Type} (read? : Json → Option α) (value : Json) : Option (List α) :=
  (array? value).bind (·.mapM read?)

end Json

namespace Declaration

/-- The names of the fields of a declaration in their order. -/
def fieldNames : List String :=
  ["kind", "name", "default_value", "options", "range", "inner_text", "span", "occurrences",
    "nested"]

/-- The declaration with given fields and with declarations that are read already within it.
Fields with other names are passed over. -/
def ofFields? (fields : List (Text × Json)) (nested : List Declaration) :
    Option Declaration := do
  let kind ← Json.required? Json.kind? "kind" fields
  let name ← Json.required? Json.text? "name" fields
  let defaultValue ← Json.withDefault? Json.text? "default_value" [] fields
  let options ← Json.withDefault? (Json.list? Json.text?) "options" [] fields
  let range ← Json.nullable? Json.sliderRange? "range" fields
  let innerText ← Json.nullable? Json.text? "inner_text" fields
  let span ← Json.required? Json.span? "span" fields
  let occurrences ← Json.withDefault? (Json.list? Json.span?) "occurrences" [] fields
  pure ⟨kind, name, defaultValue, options, range, innerText, span, occurrences, nested⟩

mutual

/-- The declaration that a JSON value describes. -/
def ofJson? : Json → Option Declaration
  | .object fields => (nestedOf? fields).bind (ofFields? fields)
  | .array items =>
    (Json.fields? fieldNames (.array items)).bind fun fields ↦
      (nestedAmong? fieldNames items).bind (ofFields? fields)
  | _ => none

/-- The declarations in the field `nested`, none if there is no such field. -/
def nestedOf? : List (Text × Json) → Option (List Declaration)
  | [] => some []
  | (name, value) :: fields =>
    if name = "nested".toList ∧ (Json.field? name fields).isNone then
      match value with
      | .array items => listOfJson? items
      | _ => none
    else nestedOf? fields

/-- The declarations in the place of the field `nested` among fields in the order of their
names, none if there is no such field. -/
def nestedAmong? : List String → List Json → Option (List Declaration)
  | name :: names, value :: values =>
    if name = "nested" then
      match value with
      | .array items => listOfJson? items
      | _ => none
    else nestedAmong? names values
  | _, _ => some []

/-- The declarations that JSON values describe. -/
def listOfJson? : List Json → Option (List Declaration)
  | [] => some []
  | item :: items => do
    let d ← ofJson? item
    let ds ← listOfJson? items
    pure (d :: ds)

end

/-- The declarations that a JSON array lists. -/
def arrayOfJson? (value : Json) : Option (List Declaration) :=
  value.array?.bind listOfJson?

end Declaration

end PromptTemplate
