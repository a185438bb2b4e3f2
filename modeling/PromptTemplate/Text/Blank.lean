import PromptTemplate.Text.Ranges

/-!
White space and trimming. `trim` takes the longest blank runs off both ends, and nothing
from the middle.
-/

set_option autoImplicit false
set_option relaxedAutoImplicit false

namespace PromptTemplate.Text

/-- The characters with the property White_Space. -/
def blankRanges : List (Nat × Nat) := [
  (0x9, 0xd), (0x20, 0x20), (0x85, 0x85), (0xa0, 0xa0), (0x1680, 0x1680), (0x2000, 0x200a),
  (0x2028, 0x2029), (0x202f, 0x202f), (0x205f, 0x205f), (0x3000, 0x3000)]

def isBlank (c : Char) : Bool := inRanges blankRanges c

/-- A text without its leading blanks. -/
def trimLeft (t : Text) : Text := t.dropWhile isBlank

/-- A text without its trailing blanks. -/
def trimRight (t : Text) : Text := (t.reverse.dropWhile isBlank).reverse

/-- A text without its leading and trailing blanks. -/
def trim (t : Text) : Text := trimRight (trimLeft t)

end PromptTemplate.Text
