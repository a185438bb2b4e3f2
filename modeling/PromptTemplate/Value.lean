import PromptTemplate.Number.Shortest

/-!
Values for controls: truth values, numbers and texts.
-/

set_option autoImplicit false
set_option relaxedAutoImplicit false

namespace PromptTemplate

/-- What a control is given. -/
inductive Value where
  | bool (value : Bool)
  | number (value : Binary64)
  | text (value : Text)
deriving DecidableEq, Repr

namespace Value

/-- Whether a toggle with this value keeps its block: a number does so unless it is zero or
no number, and a text does so unless it is empty. -/
def isTruthy : Value → Bool
  | .bool value => value
  | .number value => !value.isZero && !value.isNaN
  | .text value => !value.isEmpty

/-- What is written in the place of a control with this value. -/
def display : Value → Text
  | .bool true => ['t', 'r', 'u', 'e']
  | .bool false => ['f', 'a', 'l', 's', 'e']
  | .number value => value.text
  | .text value => value

/-- Equality of values; numbers compare as numbers. -/
def equals : Value → Value → Bool
  | .bool a, .bool b => a == b
  | .number a, .number b => a.equals b
  | .text a, .text b => a == b
  | _, _ => false

end Value

end PromptTemplate
