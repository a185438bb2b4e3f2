import PromptTemplate.Declaration.OfText
import PromptTemplate.Declaration.Json
import PromptTemplate.Text.Quoted

/-!
Declarations as a list for a reader: a line for each control with its kind, its name and what
it is unless it is changed, and the controls inside a toggle indented below it.
-/

set_option autoImplicit false
set_option relaxedAutoImplicit false

namespace PromptTemplate.Declaration

/-- What a declaration states besides its kind and name. -/
def detail (d : Declaration) : Text :=
  match d.kind with
  | .text => if d.defaultValue.isEmpty then [] else " = ".toList ++ Text.quoted d.defaultValue
  | .select =>
    if d.options.isEmpty then " (no options)".toList
    else
      " [".toList ++ Text.join " | ".toList d.options ++ "] = ".toList ++ d.defaultValue
  | .slider =>
    let range := d.range.getD SliderRange.standard
    " = ".toList ++ d.defaultValue ++ " (".toList ++ Integer.text range.min ++ "..".toList ++
      Integer.text range.max ++ [')']
  | .toggle =>
    " (".toList ++ Natural.text (Text.lineCount (d.innerText.getD [])) ++ " line(s))".toList

/-- How often a control is written, if more than once. -/
def repeats (d : Declaration) : Text :=
  if d.spans.length ≤ 1 then [] else " x".toList ++ Natural.text d.spans.length

/-- The line of a declaration. Kinds are filled up to the same width. -/
def describe (d : Declaration) : Text :=
  d.kind.keyword ++ List.replicate (7 - d.kind.keyword.length) ' ' ++ ' ' :: d.name ++
    d.detail ++ d.repeats

/-- The lines of a declaration and of those inside it. -/
def describeAll (d : Declaration) : Text :=
  d.describe ++ ['\n'] ++ d.nested.flatMap fun inner ↦ ' ' :: ' ' :: inner.describe ++ ['\n']

/-- The declarations of an input as lines. -/
def listing (input : Text) (ds : List Declaration) : Text :=
  if ds.isEmpty then "No controls found in ".toList ++ input ++ ['\n']
  else ds.flatMap describeAll

/-- The declarations as a JSON document. -/
def jsonListing (ds : List Declaration) : Text :=
  (Json.array (listToJson ds)).indented 0 ++ ['\n']

end PromptTemplate.Declaration
