import PromptTemplate.Command.Configuration
import PromptTemplate.Command.Inspection
import PromptTemplate.Command.Rendering
import PromptTemplate.Command.Usage

/-!
Carrying out commands. A command that fails prints nothing and changes no file, with one
exception: a strict check prints its findings and then fails for them.
-/

set_option autoImplicit false
set_option relaxedAutoImplicit false

namespace PromptTemplate

namespace Command

/-- Lists the declarations of one template. -/
def runParse (env : Environment) (input : Text) (format : OutputFormat) : Outcome :=
  .ofOutput env <| (env.readTemplate input).map fun template ↦
    let ds := Declaration.ofText template
    match format with
    | .json => Declaration.jsonListing ds
    | .text => Declaration.listing input ds

/-- Lists the controls of several templates. -/
def runControls (env : Environment) (arguments : List Text) (format : OutputFormat) : Outcome :=
  .ofOutput env <| ((env.inputs arguments).bind env.readTemplates).map fun templates ↦
    let usages := Usage.collect <| templates.map fun (input, template) ↦
      (input, Declaration.ofText template)
    match format with
    | .json => Usage.jsonListing usages
    | .text => Usage.listing usages

/-- The findings of several templates, with the number of templates. -/
def inspect (env : Environment) (arguments : List Text) :
    Except Fault (Nat × List LocatedDiagnostic) :=
  ((env.inputs arguments).bind env.readTemplates).map fun templates ↦
    (templates.length, templates.flatMap fun (input, template) ↦
      LocatedDiagnostic.ofTemplate input template)

/-- Checks several templates. -/
def runCheck (env : Environment) (arguments : List Text) (strict : Bool)
    (format : OutputFormat) : Outcome :=
  match inspect env arguments with
  | .error fault => .failed env fault
  | .ok (inputs, findings) =>
    let output := match format with
      | .json => LocatedDiagnostic.jsonListing findings
      | .text => LocatedDiagnostic.listing inputs findings
    { Outcome.printed env output with
      fault :=
        if strict && !findings.isEmpty then some (.ofFailure (.checkFailed findings.length))
        else none }

/-- Carries out an action on the global configuration at a path, or else at its usual place. -/
def runConfig (env : Environment) (configPath : Option Text) (action : ConfigAction) : Outcome :=
  match Config.pathOr env.home configPath with
  | .error fault => .failed env fault
  | .ok path => action.run env path

/-- Carries out a command. Only a rendering can end at a step on offsets. -/
def run (env : Environment) (configPath : Option Text) : Command → Except Misstep Outcome
  | .parse input format => .ok (runParse env input format)
  | .render request => request.run env configPath
  | .controls arguments format => .ok (runControls env arguments format)
  | .check arguments strict format => .ok (runCheck env arguments strict format)
  | .config action => .ok (runConfig env configPath action)

end Command

/-- The outcome as it is passed on: without its warnings if only errors are wanted. -/
def Invocation.passOn (i : Invocation) (outcome : Outcome) : Outcome :=
  if i.quiet && !i.verbose then { outcome with warnings := [] } else outcome

/-- Carries out an invocation. -/
def Invocation.run (env : Environment) (i : Invocation) : Except Misstep Outcome :=
  (i.command.run env i.configPath).map i.passOn

end PromptTemplate
