import PromptTemplate.Command
import PromptTemplate.Command.Environment
import PromptTemplate.Text.Blank

/-!
Changing and showing the global configuration. Every action reads the file anew, and it
writes the file only if it has something to change.
-/

set_option autoImplicit false
set_option relaxedAutoImplicit false

namespace PromptTemplate.ConfigAction

/-- The words for truth values, without regard to the case of ASCII letters. -/
def readBool? (raw : Text) : Option Bool :=
  let word := (Text.trim raw).map Char.toLower
  if ["true".toList, "yes".toList, "on".toList, "1".toList].contains word then some true
  else if ["false".toList, "no".toList, "off".toList, "0".toList].contains word then some false
  else none

/-- The value that a word stands for. -/
def typedValue (raw : Text) : ValueSort → Except Failure Value
  | .text => .ok (.text raw)
  | .bool =>
    match readBool? raw with
    | some b => .ok (.bool b)
    | none => .error (.configError ('\'' :: raw ++ "' is not a boolean".toList))
  | .number =>
    match (Binary64.ofText? (Text.trim raw)).filter (·.isFinite) with
    | some x => .ok (.number x)
    | none => .error (.configError ('\'' :: raw ++ "' is not a finite number".toList))

/-- The outcome of saving a configuration. What is to be printed is in two parts: one is printed
in any case, and one only behind the saving, if that succeeds. -/
def saving (env : Environment) (path : Text) (config : Config) (before behind : Text) :
    Outcome :=
  match config.save env.files path with
  | (files, none) => ⟨files, before ++ behind, [], none⟩
  | (files, some fault) => ⟨files, before, [], some fault⟩

/-- Writes the configuration to start from, unless there is one. -/
def runCreate (env : Environment) (path : Text) (force : Bool) : Outcome :=
  if env.files.has path && !force then
    .printed env ("❌ Global config already exists at: ".toList ++ path ++
      "\n   Use --force to overwrite\n".toList)
  else
    saving env path Config.starter [] <|
      "✅ Created global config at: ".toList ++ path ++ "\n\nExample configuration:\n".toList ++
        Config.starter.toTomlText ++ "\nNext steps:\n".toList ++
        "  Replace the example values with ones used across your templates\n".toList

/-- Shows the configuration. -/
def listing (path : Text) (config : Config) : Text :=
  "Global Configuration\nLocation: ".toList ++ path ++ "\n\n".toList ++
    if config.values.isEmpty then
      "No global values configured.\n\nTip:\n".toList ++
        "  Run 'promptctl config init' to create an example configuration\n".toList
    else config.toTomlText ++ ['\n']

/-- Sets a value. -/
def runSet (env : Environment) (path name raw : Text) (sort : ValueSort) : Outcome :=
  let name := Text.trim name
  if name.isEmpty then
    .failed env (.ofFailure (.configError "value name must not be empty".toList))
  else
    match typedValue raw sort with
    | .error failure => .failed env (.ofFailure failure)
    | .ok value =>
      match Config.load env.files path with
      | .error fault => .failed env fault
      | .ok config =>
        let replaced := match config.get? name with
          | some previous =>
            "⚠️  Replacing '".toList ++ name ++ "' (was ".toList ++ previous.display ++
              ")\n".toList
          | none => []
        saving env path (config.set name value) replaced <|
          "✅ Set global value '".toList ++ name ++ "' = ".toList ++
            value.display ++ ['\n']

/-- Removes a value. The name counts as it is given, blanks included. -/
def runUnset (env : Environment) (path name : Text) : Outcome :=
  match Config.load env.files path with
  | .error fault => .failed env fault
  | .ok config =>
    if (config.get? name).isSome then
      saving env path (config.unset name) [] <|
        "✅ Removed global value '".toList ++ name ++ "'\n".toList
    else .printed env ("❌ Global value '".toList ++ name ++ "' not found\n".toList)

/-- Carries out an action on the configuration at a path. -/
def run (env : Environment) (path : Text) : ConfigAction → Outcome
  | .create force => runCreate env path force
  | .list => .ofOutput env ((Config.load env.files path).map (listing path))
  | .path => .printed env (path ++ ['\n'])
  | .set name value sort => runSet env path name value sort
  | .unset name => runUnset env path name

end PromptTemplate.ConfigAction
