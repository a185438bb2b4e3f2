import PromptTemplate.Config
import PromptTemplate.FileTree.Glob

/-!
What a command works with, and what it leaves behind. Templates are read from files or from
the standard input, and patterns among the inputs are replaced by the files that match.
-/

set_option autoImplicit false
set_option relaxedAutoImplicit false

namespace PromptTemplate

/-- The files, the home directory if there is one, and the standard input of a run. -/
structure Environment where
  files : FileSystem
  home : Option Text
  input : Content

/-- What a run leaves behind: the files, what it wrote to the standard output, what it warned
of, and the fault that ended it if one did. -/
structure Outcome where
  files : FileSystem
  output : Text
  warnings : List Text
  fault : Option Fault

namespace Outcome

/-- A run that wrote to the standard output and nothing else. -/
def printed (env : Environment) (output : Text) : Outcome := ⟨env.files, output, [], none⟩

/-- A run that ended before it did anything. -/
def failed (env : Environment) (fault : Fault) : Outcome := ⟨env.files, [], [], some fault⟩

/-- A run that prints what it finds out, unless it fails to. -/
def ofOutput (env : Environment) (output : Except Fault Text) : Outcome :=
  match output with
  | .ok t => printed env t
  | .error fault => failed env fault

end Outcome

/-- What stands for the standard input among the inputs. -/
def standardInput : Text := ['-']

namespace Environment

/-- The template that an input names. -/
def readTemplate (env : Environment) (input : Text) : Except Fault Text :=
  if input = standardInput then
    match env.input with
    | .text t => .ok t
    | .bytes _ fault =>
      .error ⟨.system .uncategorized fault.message,
        ["Failed to read template from stdin".toList]⟩
  else if !env.files.has input then .error (.ofFailure (.templateNotFound input))
  else
    match env.files.read input with
    | .ok (.text t) => .ok t
    | .ok (.bytes _ fault) => .error (.ofFailure (.templateReadFailed input fault.message))
    | .error e => .error (e.fault ("Failed to read template ".toList ++ input))

/-- The templates of inputs, each with its input. -/
def readTemplates (env : Environment) (inputs : List Text) : Except Fault (List (Text × Text)) :=
  inputs.mapM fun input ↦ (env.readTemplate input).map (input, ·)

end Environment

namespace Inputs

/-- Whether an input is a pattern and not a path. -/
def isPattern (input : Text) : Bool := input.any fun c ↦ c == '*' || c == '?' || c == '['

/-- The inputs that one argument stands for. `paths` are the paths that a pattern matches,
and `isFile` tells those that are files. -/
def expandOne (paths : Text → Except Glob.PatternError (List Text)) (isFile : Text → Bool)
    (argument : Text) : Except Fault (List Text) :=
  if argument = standardInput ∨ !isPattern argument then .ok [argument]
  else
    match paths argument with
    | .error e =>
      .error ⟨.plain e.message, ["Invalid glob pattern '".toList ++ argument ++ ['\'']]⟩
    | .ok found =>
      let files := found.filter isFile
      if files.isEmpty then .error (.ofFailure (.noMatchingFiles argument)) else .ok files

/-- A list with an element at its end, unless it is in the list. -/
def addNew (inputs : List Text) (input : Text) : List Text :=
  if inputs.contains input then inputs else inputs ++ [input]

/-- The inputs that arguments stand for, each at its first place. -/
def expand (paths : Text → Except Glob.PatternError (List Text)) (isFile : Text → Bool)
    (arguments : List Text) : Except Fault (List Text) :=
  arguments.foldlM (fun inputs argument ↦
    (expandOne paths isFile argument).map fun more ↦ more.foldl addNew inputs) []

end Inputs

namespace Environment

/-- The inputs that arguments stand for among the files. -/
def inputs (env : Environment) (arguments : List Text) : Except Fault (List Text) :=
  Inputs.expand (Glob.paths env.files) env.files.isFile arguments

end Environment

end PromptTemplate
