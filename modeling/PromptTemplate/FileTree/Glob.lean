import PromptTemplate.FileTree

/-!
Patterns for paths. A pattern is matched component by component: a component without wild
cards is looked up, any other one is held against the names in a directory, and `**` stands
for any number of directories. Matches come in the order of their names, what lies in a
directory comes at the place of the directory, and every match comes once.
-/

set_option autoImplicit false
set_option relaxedAutoImplicit false

namespace PromptTemplate.Glob

/-- One character or a range of them in a set. -/
inductive Member where
  | char (c : Char)
  | range (first last : Char)
deriving DecidableEq, Repr

def Member.holds (c : Char) : Member → Bool
  | .char d => c == d
  | .range first last => first ≤ c && c ≤ last

/-- A part of a pattern: a character as it is, any one character, any run of characters, any
run of directories, or one character inside or outside of a set. -/
inductive Token where
  | char (c : Char)
  | one
  | run
  | directories
  | inside (members : List Member)
  | outside (members : List Member)
deriving DecidableEq, Repr

/-- What is wrong with a pattern. -/
inductive Flaw where
  | wildcards
  | recursiveWildcards
  | invalidRange
deriving DecidableEq, Repr

def Flaw.message : Flaw → Text
  | .wildcards =>
    "wildcards are either regular ".toList ++ ['\x60', '*', '\x60'] ++ " or recursive ".toList ++
      ['\x60', '*', '*', '\x60']
  | .recursiveWildcards => "recursive wildcards must form a single path component".toList
  | .invalidRange => "invalid range pattern".toList

/-- A flaw and the character at which it is. -/
structure PatternError where
  position : Nat
  flaw : Flaw
deriving DecidableEq, Repr

def PatternError.message (e : PatternError) : Text :=
  "Pattern syntax error near position ".toList ++ Natural.text e.position ++ [':', ' '] ++
    e.flaw.message

/-- The members that a set lists. -/
def members : Text → List Member
  | a :: '-' :: b :: t => .range a b :: members t
  | a :: t => .char a :: members t
  | [] => []

/-- The characters of a set from behind its opening bracket, and what follows the closing
one. The first of them may be a closing bracket itself. -/
def readSet? : Text → Option (Text × Text)
  | [] => none
  | c :: t =>
    match Text.splitFirst? ']' t with
    | none => none
    | some (more, rest) => some (c :: more, rest)

/-- The tokens of a pattern from a position on, behind another character or at the start.
The first number bounds the characters. -/
def readTokens (position : Nat) (before : Option Char) :
    Nat → Text → Except PatternError (List Token)
  | _, [] => .ok []
  | 0, _ => .ok []
  | fuel + 1, c :: t =>
    match c with
    | '?' => (readTokens (position + 1) (some '?') fuel t).map (.one :: ·)
    | '*' =>
      let stars := (t.takeWhile (· == '*')).length + 1
      let rest := t.drop (stars - 1)
      if stars = 1 then (readTokens (position + 1) (some '*') fuel t).map (.run :: ·)
      else if 2 < stars then .error ⟨position + 2, .wildcards⟩
      else if before.any (· != '/') then .error ⟨position - 1, .recursiveWildcards⟩
      else
        match rest with
        | [] => .ok [.directories]
        | '/' :: rest =>
          (readTokens (position + 3) (some '/') fuel rest).map (.directories :: ·)
        | _ => .error ⟨position + 2, .recursiveWildcards⟩
    | '[' =>
      let negated := t.head? == some '!'
      match readSet? (if negated then t.tail else t) with
      | none => .error ⟨position, .invalidRange⟩
      | some (set, rest) =>
        let token := if negated then Token.outside (members set) else .inside (members set)
        let size := set.length + if negated then 3 else 2
        (readTokens (position + size) (some ']') fuel rest).map (token :: ·)
    | c => (readTokens (position + 1) (some c) fuel t).map (.char c :: ·)

/-- The tokens of a pattern. -/
def tokens (pattern : Text) : Except PatternError (List Token) :=
  readTokens 0 none pattern.length pattern

/-- Whether a token for one character stands for a given one. -/
def Token.admits (c : Char) : Token → Bool
  | .char d => c == d
  | .one => true
  | .inside set => set.any (·.holds c)
  | .outside set => !set.any (·.holds c)
  | .run => false
  | .directories => false

/-- For every tail of a list, the whole list first, whether anything in it is true. -/
def anyInTails : List Bool → List Bool
  | [] => []
  | held :: more =>
    match anyInTails more with
    | [] => [held]
    | later :: tails => (held || later) :: later :: tails

/-- For every tail of a name, the whole name first and the empty one last, whether tokens
match it. A token for one character takes the head of a tail and leaves the next tail; a run
leaves any later tail. -/
def matchesTails (name : Text) : List Token → List Bool
  | [] => name.map (fun _ ↦ false) ++ [true]
  | token :: tokens =>
    let tails := matchesTails name tokens
    match token with
    | .run => anyInTails tails
    | .directories => anyInTails tails
    | token =>
      List.zipWith (fun c matchesRest ↦ token.admits c && matchesRest) name tails.tail ++ [false]

/-- Whether tokens match a whole name. -/
def matchesName (tokens : List Token) (name : Text) : Bool :=
  (matchesTails name tokens).head?.getD false

/-- A component of a pattern. -/
structure Component where
  tokens : List Token
deriving DecidableEq, Repr

/-- The name that a component without wild cards spells. -/
def Component.name? (c : Component) : Option Text :=
  c.tokens.mapM fun token ↦
    match token with
    | .char d => some d
    | _ => none

def Component.isRecursive (c : Component) : Bool := c.tokens.contains .directories

/-- A pattern ready to be matched. -/
structure Pattern where
  rooted : Bool
  components : List Component
  directoriesOnly : Bool
deriving DecidableEq, Repr

/-- The pattern that a text spells. The text has to be free of flaws as a whole and in each
of its components. -/
def Pattern.ofText (t : Text) : Except PatternError Pattern := do
  let _ ← tokens t
  let rooted := FilePath.isRooted t
  let pieces := FilePath.pieces t
  let pieces := if pieces.getLast? == some [] then pieces.dropLast else pieces
  let components ← pieces.mapM fun piece ↦ (tokens piece).map Component.mk
  pure { rooted, components, directoriesOnly := t.getLast? == some '/' }

/-- The path of a name in the directory that a path leads to. -/
def below (directory name : Text) : Text :=
  if FilePath.isCurrent directory then name else FilePath.append directory name

/-- The names in the directory that a path leads to. -/
def namesIn (fs : FileSystem) (directory : Text) : List Text :=
  match fs.find directory with
  | .ok place => if fs.isDirectory directory then fs.tree.children place else []
  | .error _ => []

/-- The paths that a component leads to from a directory. -/
def Component.pathsFrom (fs : FileSystem) (c : Component) (directory : Text) : List Text :=
  match c.name? with
  | some name =>
    let path := below directory name
    let isDots := name == ['.'] || name == ['.', '.']
    if (isDots && fs.isDirectory directory) || (!isDots && fs.has path) then [path] else []
  | none =>
    let dots := [['.', '.'], ['.']].filter fun name ↦
      fs.isDirectory directory && c.tokens.head? == some (.char '.') && matchesName c.tokens name
    let names := (namesIn fs directory).filter (matchesName c.tokens)
    dots.map (FilePath.append directory) ++ names.map (below directory)

/-- The paths in a directory and in all directories below it whose last name is for a
component, or all the directories if there is no component. The number bounds the depth. -/
def pathsBelow (fs : FileSystem) (c : Option Component) : Nat → Text → List Text
  | 0, _ => []
  | depth + 1, directory =>
    (namesIn fs directory).flatMap fun name ↦
      let path := below directory name
      let isDirectory := fs.isDirectory path
      let held := match c with
        | some c => matchesName c.tokens name
        | none => isDirectory
      (if held then [path] else []) ++ if isDirectory then pathsBelow fs c depth path else []

/-- A step of a search: the names in a directory that are for a component, or the names in all
directories below as well. Without a component all directories below are found. -/
inductive Step where
  | here (c : Component)
  | below (c : Option Component)
deriving DecidableEq, Repr

/-- The steps for components. A component for any directories goes with the next one. -/
def steps : List Component → List Step
  | [] => []
  | c :: rest =>
    if c.isRecursive then
      match steps rest with
      | [] => [.below none]
      | .here next :: more => .below (some next) :: more
      | .below next :: more => .below next :: more
    else .here c :: steps rest

/-- The paths that a step finds from a directory. -/
def Step.paths (fs : FileSystem) (step : Step) (directory : Text) : List Text :=
  match step with
  | .here c => c.pathsFrom fs directory
  | .below c => pathsBelow fs c (fs.tree.nodes.length + 1) directory

/-- The paths that a search finds step by step from the paths found before. A path that is
found in several ways is searched once, at its first place. -/
def search (fs : FileSystem) (found : List Text) (steps : List Step) : List Text :=
  steps.foldl (fun found step ↦ (found.flatMap (step.paths fs)).eraseDups) found

/-- The paths that match a pattern, in order. -/
def Pattern.paths (p : Pattern) (fs : FileSystem) : List Text :=
  if p.components.isEmpty then []
  else
    (search fs [if p.rooted then ['/'] else ['.']] (steps p.components)).filter fun path ↦
      !p.directoriesOnly || fs.isDirectory path

/-- The paths that match the pattern which a text spells. -/
def paths (fs : FileSystem) (pattern : Text) : Except PatternError (List Text) :=
  (Pattern.ofText pattern).map (·.paths fs)

end PromptTemplate.Glob
