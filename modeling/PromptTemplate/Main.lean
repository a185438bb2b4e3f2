import PromptTemplate.Command.Help
import PromptTemplate.Command.Run

/-!
The program on a real system. It reads the files that an invocation can ask for into a file
system of its own, carries the invocation out there, and then writes what has changed.
-/

set_option autoImplicit false
set_option relaxedAutoImplicit false

namespace PromptTemplate

/-! ### What an invocation can ask for -/

/-- The inputs of a command. -/
def Command.inputs : Command → List Text
  | .parse input _ => [input]
  | .render request => [request.input]
  | .controls inputs _ => inputs
  | .check inputs _ _ => inputs
  | .config _ => []

/-- Other files that a command reads or writes. -/
def Command.files : Command → List Text
  | .render request => request.valuesFile.toList ++ request.output.toList
  | _ => []

/-- Whether a command takes patterns for its inputs. -/
def Command.expandsInputs : Command → Bool
  | .controls .. => true
  | .check .. => true
  | _ => false

/-- The directory under which a pattern finds its files, and how deep below it. -/
def Glob.reach (pattern : Text) : Text × Nat :=
  let pieces := FilePath.pieces pattern
  let fixed := pieces.takeWhile fun piece ↦ !Inputs.isPattern piece
  let deepest := if pieces.contains ['*', '*'] then 4096 else pieces.length - fixed.length
  (FilePath.ofPieces (FilePath.isRooted pattern) fixed, deepest)

/-- A path and the paths on the way to it, the shortest first. -/
def FilePath.way (path : Text) : List Text :=
  let pieces := pieces path
  (List.range pieces.length).map fun n ↦ ofPieces (isRooted path) (pieces.take (n + 1))

/-- Notes what is at a path, unless its directory is not known. -/
def FileSystem.note (fs : FileSystem) (path : Text) (node : Node) : FileSystem :=
  match fs.target path with
  | .ok (place, some name) => { fs with tree := fs.tree.put (place ++ [name]) node }
  | _ => fs

namespace Program

/-! ### Reading the system -/

def bytesOf (content : Content) : ByteArray :=
  match content with
  | .text t => ⟨(Utf8.encode t).toArray⟩
  | .bytes bytes _ => ⟨bytes.toArray⟩

def contentOf (bytes : ByteArray) : Content := Content.ofBytes bytes.toList

/-- Notes what the system has at a path. The content of a file is read only if it is wanted. -/
def look (withContent : Bool) (fs : FileSystem) (path : Text) : IO FileSystem := do
  let full := (← IO.currentDir) / String.ofList path
  if ← full.isDir then return fs.note path .directory
  else if !(← full.pathExists) then return fs
  else if withContent then return fs.note path (.file (contentOf (← IO.FS.readBinFile full)))
  else return fs.note path (.file (.text []))

/-- Notes what the system has at a path and on the way to it. -/
def explore (fs : FileSystem) (path : Text) : IO FileSystem :=
  (FilePath.way path).foldlM (look true) fs

/-- Notes what the system has below a directory, down to a depth. -/
def exploreBelow (fs : FileSystem) (directory : Text) : Nat → IO FileSystem
  | 0 => return fs
  | depth + 1 => do
    let full := (← IO.currentDir) / String.ofList directory
    if !(← full.isDir) then return fs
    let mut fs := fs
    for entry in ← full.readDir do
      let path := FilePath.append directory entry.fileName.toList
      fs ← look false fs path
      fs ← exploreBelow fs path depth
    return fs

/-- Reads a stream to its end. -/
partial def readAll (stream : IO.FS.Stream) (before : ByteArray) : IO ByteArray := do
  let bytes ← stream.read 65536
  if bytes.isEmpty then return before else readAll stream (before ++ bytes)

/-- The file system with nothing but the way to the current directory. -/
def hereOnly : IO FileSystem := do
  let here := ((← IO.currentDir).toString.toList.splitOn '/').filter (!·.isEmpty)
  let way := (List.range here.length).map fun n ↦ here.take (n + 1)
  return ⟨way.foldl (fun tree place ↦ tree.put place .directory) FileTree.empty, here⟩

/-- All that an invocation can ask for. -/
def environment (i : Invocation) : IO Environment := do
  let home := ((← IO.getEnv "HOME").filter (!·.isEmpty)).map String.toList
  let patterns := i.command.inputs.filter fun input ↦
    i.command.expandsInputs && Inputs.isPattern input
  let mut files ← hereOnly
  for path in (Config.pathOr home i.configPath).toOption.toList ++ i.command.files ++
      i.command.inputs do
    files ← explore files path
  for pattern in patterns do
    let (directory, depth) := Glob.reach pattern
    files ← explore files directory
    files ← exploreBelow files directory depth
  for input in ((Environment.mk files home (.text [])).inputs patterns).toOption.getD [] do
    files ← explore files input
  let input ←
    if i.command.inputs.contains standardInput then readAll (← IO.getStdin) .empty
    else pure .empty
  return ⟨files, home, contentOf input⟩

/-! ### Carrying out -/

/-- Writes the files that a run has changed. -/
def writeChanges (before after : FileSystem) : IO Unit := do
  for (place, content) in FileTree.changes before.tree after.tree do
    IO.FS.createDirAll (String.ofList (FilePath.ofPieces true place.dropLast))
    IO.FS.writeBinFile (String.ofList (FilePath.ofPieces true place)) (bytesOf content)

/-- Carries out an invocation and answers with the exit code. -/
def carryOut (i : Invocation) : IO UInt32 := do
  let env ← environment i
  match i.run env with
  | .error misstep =>
    IO.eprintln (String.ofList misstep.message)
    return 101
  | .ok outcome =>
    writeChanges env.files outcome.files
    IO.print (String.ofList outcome.output)
    for warning in outcome.warnings do
      IO.eprintln (" WARN " ++ String.ofList warning)
    match outcome.fault with
    | none => return 0
    | some fault =>
      IO.eprint (String.ofList fault.report.display)
      return 1

end Program

end PromptTemplate

open PromptTemplate in
def main (arguments : List String) : IO UInt32 := do
  match Invocation.read (arguments.map String.toList) with
  | .ok i => Program.carryOut i
  | .error stop =>
    let message := String.ofList stop.message
    if stop.isError then
      IO.eprint message
      return 2
    else
      IO.print message
      return 0
