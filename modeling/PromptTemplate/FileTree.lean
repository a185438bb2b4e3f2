import PromptTemplate.FilePath
import PromptTemplate.Failure
import PromptTemplate.Text.Utf8
import PromptTemplate.Ordering

/-!
A tree of files and directories. Places in the tree are lists of names from the root on. A
path leads to a place by its pieces, one after the other; a piece can only be followed in a
directory. Nothing is removed from the tree: a write makes or changes one file, and
directories are made where they are missing.
-/

set_option autoImplicit false
set_option relaxedAutoImplicit false

namespace PromptTemplate

/-- The content of a file: text, or bytes that are no text and why they are none. -/
inductive Content where
  | text (text : Text)
  | bytes (bytes : List UInt8) (fault : Utf8.Fault)
deriving DecidableEq, Repr

def Content.ofBytes (bytes : List UInt8) : Content :=
  match Utf8.decode bytes with
  | .ok t => .text t
  | .error fault => .bytes bytes fault

/-- What the system refuses. -/
inductive SystemError where
  | notFound
  | permissionDenied
  | exists
  | notADirectory
  | isADirectory
deriving DecidableEq, Repr

namespace SystemError

def code : SystemError → Nat
  | notFound => 2
  | permissionDenied => 13
  | .exists => 17
  | notADirectory => 20
  | isADirectory => 21

def all : List SystemError := [notFound, permissionDenied, .exists, notADirectory, isADirectory]

def ofCode? (n : Nat) : Option SystemError := all.find? fun e ↦ e.code = n

def description : SystemError → Text
  | notFound => "No such file or directory".toList
  | permissionDenied => "Permission denied".toList
  | .exists => "File exists".toList
  | notADirectory => "Not a directory".toList
  | isADirectory => "Is a directory".toList

def text (e : SystemError) : Text :=
  e.description ++ " (os error ".toList ++ Natural.text e.code ++ [')']

def sort : SystemError → SystemFault
  | notFound => .notFound
  | permissionDenied => .permissionDenied
  | _ => .uncategorized

/-- The fault of something that could not be done for an error of the system. -/
def fault (e : SystemError) (context : Text) : Fault := ⟨.system e.sort e.text, [context]⟩

end SystemError

/-- A place in the tree, by the names on the way from the root. -/
abbrev Place := List Text

/-- What can be at a place. -/
inductive Node where
  | directory
  | file (content : Content)
deriving DecidableEq, Repr

/-- The places of a tree with what is there. The root is a directory and is not listed. -/
structure FileTree where
  nodes : List (Place × Node)
deriving Repr

namespace FileTree

def empty : FileTree := ⟨[]⟩

/-- What is at a place. -/
def node? (tree : FileTree) (place : Place) : Option Node :=
  if place.isEmpty then some .directory
  else (tree.nodes.find? fun entry ↦ entry.1 = place).map (·.2)

/-- The tree with something at a place. -/
def put (tree : FileTree) (place : Place) (node : Node) : FileTree :=
  if (tree.node? place).isSome then
    ⟨tree.nodes.map fun entry ↦ if entry.1 = place then (place, node) else entry⟩
  else ⟨tree.nodes ++ [(place, node)]⟩

/-- Follows the pieces of a path from a place on. -/
def follow (tree : FileTree) (place : Place) : List Text → Except SystemError Place
  | [] => .ok place
  | piece :: rest =>
    match tree.node? place with
    | none => .error .notFound
    | some (.file _) => .error .notADirectory
    | some .directory =>
      if piece.isEmpty || piece == ['.'] then follow tree place rest
      else if piece == ['.', '.'] then follow tree place.dropLast rest
      else if (tree.node? (place ++ [piece])).isSome then follow tree (place ++ [piece]) rest
      else .error .notFound

/-- The names in a directory in ascending order. -/
def children (tree : FileTree) (place : Place) : List Text :=
  sortBy (fun a b ↦ !decide (b < a)) <| tree.nodes.filterMap fun entry ↦
    if entry.1.dropLast = place then entry.1.getLast? else none

/-- The files of a tree that another tree does not have, or has with another content. -/
def changes (before after : FileTree) : List (Place × Content) :=
  after.nodes.filterMap fun (place, node) ↦
    match node with
    | .directory => none
    | .file content => if before.node? place = some node then none else some (place, content)

end FileTree

/-- A tree with the directory in which paths without a root start. -/
structure FileSystem where
  tree : FileTree
  directory : Place
deriving Repr

namespace FileSystem

/-- Where the pieces of a path start. -/
def origin (fs : FileSystem) (path : Text) : Place :=
  if FilePath.isRooted path then [] else fs.directory

/-- The place that a path leads to. -/
def find (fs : FileSystem) (path : Text) : Except SystemError Place :=
  if path.isEmpty then .error .notFound
  else fs.tree.follow (fs.origin path) (FilePath.pieces path)

/-- What a path leads to. -/
def node? (fs : FileSystem) (path : Text) : Option Node :=
  match fs.find path with
  | .ok place => fs.tree.node? place
  | .error _ => none

def has (fs : FileSystem) (path : Text) : Bool := (fs.node? path).isSome

def isFile (fs : FileSystem) (path : Text) : Bool :=
  match fs.node? path with
  | some (.file _) => true
  | _ => false

def isDirectory (fs : FileSystem) (path : Text) : Bool := fs.node? path == some .directory

/-- The content of a file. -/
def read (fs : FileSystem) (path : Text) : Except SystemError Content :=
  (fs.find path).bind fun place ↦
    match fs.tree.node? place with
    | some (.file content) => .ok content
    | some .directory => .error .isADirectory
    | none => .error .notFound

/-- The text of a file, which is refused if its bytes are no text. -/
def readText (fs : FileSystem) (path : Text) (context : Text) : Except Fault Text :=
  match fs.read path with
  | .ok (.text t) => .ok t
  | .ok (.bytes ..) =>
    .error ⟨.system .uncategorized "stream did not contain valid UTF-8".toList, [context]⟩
  | .error e => .error (e.fault context)

/-- The directory that is to hold the last component of a path, and that component. It is
missing if the path ends with a slash or leads to a directory by dots. -/
def target (fs : FileSystem) (path : Text) : Except SystemError (Place × Option Text) :=
  if path.isEmpty then .error .notFound
  else
    let pieces := FilePath.pieces path
    let named := (pieces.reverse.dropWhile (·.isEmpty)).reverse
    (fs.tree.follow (fs.origin path) named.dropLast).bind fun place ↦
      match fs.tree.node? place with
      | some .directory =>
        match named.getLast? with
        | none => .ok (place, none)
        | some name =>
          let isName := named.length == pieces.length && name != ['.'] && name != ['.', '.']
          .ok (place, if isName then some name else none)
      | some (.file _) => .error .notADirectory
      | none => .error .notFound

/-- Makes a file with a content, or gives one another content. -/
def write (fs : FileSystem) (path : Text) (content : Content) :
    Except SystemError FileSystem :=
  (fs.target path).bind fun (place, name?) ↦
    match name? with
    | none => .error .isADirectory
    | some name =>
      match fs.tree.node? (place ++ [name]) with
      | some .directory => .error .isADirectory
      | _ => .ok { fs with tree := fs.tree.put (place ++ [name]) (.file content) }

/-- Makes one directory. -/
def makeDirectory (fs : FileSystem) (path : Text) : Except SystemError FileSystem :=
  let bare := (path.reverse.dropWhile (· == '/')).reverse
  (fs.target (if bare.isEmpty then path else bare)).bind fun (place, name?) ↦
    match name? with
    | none => .error .exists
    | some name =>
      match fs.tree.node? (place ++ [name]) with
      | some _ => .error .exists
      | none => .ok { fs with tree := fs.tree.put (place ++ [name]) .directory }

/-- Makes a directory and those above it that are missing. The number bounds the latter. -/
def makeDirectoriesWithin (fs : FileSystem) : Nat → Text → Except SystemError FileSystem
  | 0, _ => .error .notFound
  | above + 1, path =>
    if path.isEmpty then .ok fs
    else
      let orIsThere (e : SystemError) (fs : FileSystem) : Except SystemError FileSystem :=
        if fs.isDirectory path then .ok fs else .error e
      match fs.makeDirectory path with
      | .ok fs => .ok fs
      | .error .notFound =>
        match FilePath.parent? path with
        | none => .error .notFound
        | some parent =>
          (makeDirectoriesWithin fs above parent).bind fun fs ↦
            match fs.makeDirectory path with
            | .ok fs => .ok fs
            | .error e => orIsThere e fs
      | .error e => orIsThere e fs

/-- Makes a directory and those above it that are missing. -/
def makeDirectories (fs : FileSystem) (path : Text) : Except SystemError FileSystem :=
  fs.makeDirectoriesWithin (path.length + 1) path

/-- Writes a file behind making the directories above it. They stay if the file cannot be
written. The contexts name what could not be made and what could not be written. -/
def store (fs : FileSystem) (path : Text) (content : Content)
    (directoryContext fileContext : String) : FileSystem × Option Fault :=
  let made : Except Fault FileSystem :=
    match FilePath.parent? path with
    | none => .ok fs
    | some parent =>
      match fs.makeDirectories parent with
      | .ok fs => .ok fs
      | .error e => .error (e.fault (directoryContext.toList ++ parent))
  match made with
  | .error fault => (fs, some fault)
  | .ok fs =>
    match fs.write path content with
    | .ok fs => (fs, none)
    | .error e => (fs, some (e.fault (fileContext.toList ++ path)))

end FileSystem

end PromptTemplate
