import PromptTemplate.Command.Listing

/-!
Controls and the templates that declare them. The first template with a control says what it
is; the others are listed with it.
-/

set_option autoImplicit false
set_option relaxedAutoImplicit false

namespace PromptTemplate

/-- A control with the inputs that declare it. What is written of it in JSON has fields of its own;
a line about it is made of the declaration. -/
structure Usage where
  kind : Kind
  name : Text
  defaultValue : Text
  options : List Text
  range : Option SliderRange
  files : List Text
  declaration : Declaration

namespace Usage

/-- What tells the controls apart that are used. -/
def key (u : Usage) : Kind × Text := (u.kind, u.name)

/-- The usage of a control by some inputs. -/
def ofControl (control : Declaration) (files : List Text) : Usage where
  kind := control.kind
  name := control.name
  defaultValue := control.defaultValue
  options := control.options
  range := control.range
  files := files
  declaration := control

/-- Adds a control of an input to the usages so far. -/
def add (file : Text) (usages : List Usage) (control : Declaration) : List Usage :=
  if usages.any fun u ↦ u.key == control.key then
    usages.map fun u ↦
      if u.key == control.key && !u.files.contains file then
        { u with files := u.files ++ [file] }
      else u
  else usages ++ [ofControl control [file]]

/-- The usages of all controls of some inputs, in the order in which they first appear. -/
def collect (templates : List (Text × List Declaration)) : List Usage :=
  templates.foldl (fun usages template ↦
    (Declaration.distinct template.2).foldl (add template.1) usages) []

/-- The usages as lines. -/
def listing (usages : List Usage) : Text :=
  if usages.isEmpty then "No controls found\n".toList
  else
    usages.flatMap fun u ↦
      u.declaration.describe ++ ['\n'] ++ List.replicate 8 ' ' ++ Text.join [',', ' '] u.files ++
        ['\n']

def toJson (u : Usage) : Json :=
  .object <|
    [("kind".toList, .text u.kind.keyword), ("name".toList, .text u.name),
      ("default_value".toList, .text u.defaultValue)] ++
    Json.listField "options" (u.options.map .text) ++
    Json.optionalField "range" (u.range.map SliderRange.toJson) ++
    [("files".toList, .array (u.files.map .text))]

/-- The usages as a JSON document. -/
def jsonListing (usages : List Usage) : Text :=
  (Json.array (usages.map toJson)).indented 0 ++ ['\n']

end Usage

end PromptTemplate
