import PromptTemplate.Diagnostic

/-!
The findings of several templates, each with the line and the column where it is.
-/

set_option autoImplicit false
set_option relaxedAutoImplicit false

namespace PromptTemplate

/-- A diagnostic with the input and the location where it was found. -/
structure LocatedDiagnostic where
  file : Text
  location : Location
  diagnostic : Diagnostic

namespace LocatedDiagnostic

/-- The diagnostics of a template. -/
def ofTemplate (file template : Text) : List LocatedDiagnostic :=
  (Diagnostic.ofText template).map fun d ↦
    ⟨file, Location.ofOffset template d.span.start, d⟩

/-- The line of a finding. -/
def describe (d : LocatedDiagnostic) : Text :=
  d.file ++ ':' :: Natural.text d.location.line ++ ':' :: Natural.text d.location.column ++
    ": warning: ".toList ++ d.diagnostic.message ++ ['\n']

/-- The findings as lines, and a last line that counts the inputs and the findings. -/
def listing (inputs : Nat) (findings : List LocatedDiagnostic) : Text :=
  findings.flatMap describe ++
    if findings.isEmpty then
      "✓ ".toList ++ Natural.text inputs ++ " file(s) checked, no problems found\n".toList
    else
      "⚠ ".toList ++ Natural.text inputs ++ " file(s) checked, ".toList ++
        Natural.text findings.length ++ " problem(s) found\n".toList

def toJson (d : LocatedDiagnostic) : Json :=
  .object <|
    [("file".toList, .text d.file), ("line".toList, .integer d.location.line),
      ("column".toList, .integer d.location.column),
      ("message".toList, .text d.diagnostic.message)] ++ d.diagnostic.fields

/-- The findings as a JSON document. -/
def jsonListing (findings : List LocatedDiagnostic) : Text :=
  (Json.array (findings.map toJson)).indented 0 ++ ['\n']

end LocatedDiagnostic

end PromptTemplate
