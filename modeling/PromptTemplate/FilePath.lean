import PromptTemplate.Text

/-!
Paths as they are written. A path is cut at its slashes; pieces that are empty or a single
dot lead nowhere, but for a dot at the very beginning, and the others are its components.
-/

set_option autoImplicit false
set_option relaxedAutoImplicit false

namespace PromptTemplate.FilePath

/-- Whether a path starts at the root. -/
def isRooted (path : Text) : Bool := path.head? == some '/'

/-- The pieces of a path between its slashes, without the empty one before the root. -/
def pieces (path : Text) : List Text :=
  let pieces := path.splitOn '/'
  if isRooted path then pieces.tail else pieces

/-- Pieces without those at the end that lead nowhere, of which the last one stands first in
the reversed list. A dot at the very beginning of a path without a root stays. -/
def dropIdle (rooted : Bool) : List Text → List Text
  | [] => []
  | piece :: before =>
    if piece.isEmpty || (piece == ['.'] && (rooted || !before.isEmpty)) then
      dropIdle rooted before
    else piece :: before

/-- The pieces of a path up to its last component. -/
def components (path : Text) : List Text :=
  (dropIdle (isRooted path) (pieces path).reverse).reverse

/-- A path of pieces. -/
def ofPieces (rooted : Bool) (pieces : List Text) : Text :=
  (if rooted then ['/'] else []) ++ Text.join ['/'] pieces

/-- The path without its last component. The root and the empty path have no parent. -/
def parent? (path : Text) : Option Text :=
  match components path with
  | [] => none
  | pieces =>
    let before := (dropIdle (isRooted path) pieces.dropLast.reverse).reverse
    some (ofPieces (isRooted path) before)

/-- The last component, unless it is a dot or two. -/
def fileName? (path : Text) : Option Text :=
  (components path).getLast?.filter fun name ↦ name != ['.'] && name != ['.', '.']

/-- What follows the last dot of the file name, unless the name begins with that dot. -/
def extension? (path : Text) : Option Text :=
  (fileName? path).bind fun name ↦
    if name.tail.contains '.' then some ((name.reverse.takeWhile (· != '.')).reverse) else none

/-- A path continued by another one, which replaces it if that starts at the root. -/
def append (path more : Text) : Text :=
  if isRooted more || path.isEmpty then more
  else if path.getLast? == some '/' then path ++ more
  else path ++ '/' :: more

/-- Whether a path is the current directory, spelled with a dot. -/
def isCurrent (path : Text) : Bool := components path == [['.']] && !isRooted path

end PromptTemplate.FilePath
