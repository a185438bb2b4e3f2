import PromptTemplate.Text

/-!
The kinds of control. Each has a keyword, and `Kind.ofKeyword?` accepts the keywords alone,
letter for letter.
-/

set_option autoImplicit false
set_option relaxedAutoImplicit false

namespace PromptTemplate

/-- What a control asks for: free text, one option of a list, a number in a range, or
whether a part of the template is kept. -/
inductive Kind where
  | text
  | select
  | slider
  | toggle
deriving DecidableEq, Repr

namespace Kind

def keyword : Kind → Text
  | .text => ['t', 'e', 'x', 't']
  | .select => ['s', 'e', 'l', 'e', 'c', 't']
  | .slider => ['s', 'l', 'i', 'd', 'e', 'r']
  | .toggle => ['t', 'o', 'g', 'g', 'l', 'e']

def all : List Kind := [.text, .select, .slider, .toggle]

/-- The kind that a keyword names. -/
def ofKeyword? (keyword : Text) : Option Kind := all.find? fun kind ↦ kind.keyword = keyword

/-- A kind is read from its own keyword. -/
theorem ofKeyword?_keyword (kind : Kind) : ofKeyword? kind.keyword = some kind := by
  cases kind <;> decide

end Kind

end PromptTemplate
