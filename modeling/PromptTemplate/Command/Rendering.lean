import PromptTemplate.Command
import PromptTemplate.Command.Environment
import PromptTemplate.Command.Suggestion
import PromptTemplate.Rendering

/-!
Rendering on request. The values come in three layers: those of the global configuration,
those of a values file and those given with the request; of two values for a name the one of
the later layer counts. A name in the later two that no control has is warned of.
-/

set_option autoImplicit false
set_option relaxedAutoImplicit false

namespace PromptTemplate.RenderRequest

/-- The name and the value of an assignment. The name is trimmed, the value is not. -/
def splitAssignment (assignment : Text) : Except Fault (Text × Text) :=
  match Text.splitFirst? '=' assignment with
  | some (name, value) =>
    if (Text.trim name).isEmpty then .error (.ofFailure (.invalidAssignment assignment))
    else .ok (Text.trim name, value)
  | none => .error (.ofFailure (.invalidAssignment assignment))

/-- The values given with a request: the assignments, then what is enabled, then what is
disabled. -/
def givenValues (r : RenderRequest) : Except Fault ValueMap :=
  (r.assignments.mapM splitAssignment).map fun assignments ↦
    ValueMap.ofList <|
      assignments.map (fun (name, value) ↦ (name, Value.text value)) ++
      r.enabled.map (fun name ↦ (Text.trim name, .bool true)) ++
      r.disabled.map (fun name ↦ (Text.trim name, .bool false))

/-- The values of a values file, whose format is told by the extension of its name. -/
def readValues (files : FileSystem) (path : Text) : Except Fault ValueMap :=
  (files.readText path ("Failed to read values file ".toList ++ path)).bind fun t ↦
    let extension := (FilePath.extension? path).map (·.map Char.toLower)
    let values? :=
      if extension = some "json".toList then some (ValueMap.ofJsonText t)
      else if extension = some "toml".toList then some (ValueMap.ofTomlText t)
      else none
    match values? with
    | none => .error (.ofFailure (.unsupportedValuesFormat path))
    | some (.ok values) => .ok values
    | some (.error fault) => .error (.ofFailure (.valuesParseError path fault.message))

/-- The warning of a name that no control has. -/
def warning (known : List Text) (name : Text) : Text :=
  "No control named '".toList ++ name ++ "' in the template".toList ++
    match Suggestion.nearest? name known with
    | some candidate => " (did you mean '".toList ++ candidate ++ "'?)".toList
    | none => []

/-- The warnings of all names that no control has. -/
def warnings (declarations : List Declaration) (names : List Text) : List Text :=
  let known := (Declaration.distinct declarations).map (·.name)
  (names.filter fun name ↦ !known.contains name).map (warning known)

/-- A template with the values for it. -/
structure Prepared where
  template : Text
  configured : ValueMap
  filed : ValueMap
  given : ValueMap

/-- Reads all that a request names. -/
def prepare (env : Environment) (configPath : Option Text) (r : RenderRequest) :
    Except Fault Prepared := do
  let template ← env.readTemplate r.input
  let configured ←
    if r.ignoresConfig then pure ValueMap.empty
    else
      ((Config.pathOr env.home configPath).bind (Config.load env.files)).map (·.values)
  let filed ← match r.valuesFile with
    | some path => readValues env.files path
    | none => pure ValueMap.empty
  let given ← r.givenValues
  pure { template, configured, filed, given }

namespace Prepared

def values (p : Prepared) : ValueMap := (p.configured.layered p.filed).layered p.given

def declarations (p : Prepared) : List Declaration := Declaration.ofText p.template

def rendered (p : Prepared) : Except Misstep Text := render p.template p.declarations p.values

def warnings (p : Prepared) : List Text :=
  RenderRequest.warnings p.declarations (p.filed.names ++ p.given.names)

end Prepared

/-- Passes a rendered template on. -/
def emit (env : Environment) (r : RenderRequest) (p : Prepared) (rendered : Text) : Outcome :=
  match r.output with
  | none => ⟨env.files, rendered, p.warnings, none⟩
  | some path =>
    let (files, fault) := env.files.store path (.text rendered)
      "Failed to create output directory " "Failed to write output to "
    ⟨files, [], p.warnings, fault⟩

/-- Carries out a request. -/
def run (env : Environment) (configPath : Option Text) (r : RenderRequest) :
    Except Misstep Outcome :=
  match r.prepare env configPath with
  | .error fault => .ok (.failed env fault)
  | .ok p => p.rendered.map (r.emit env p)

end PromptTemplate.RenderRequest
