import PromptTemplate.CommandLine

/-!
The commands of the program and the command lines that spell them. `Invocation.read` turns a
command line into the command to carry out and the settings to do so with.
-/

set_option autoImplicit false
set_option relaxedAutoImplicit false

namespace PromptTemplate

/-- How results are shown. -/
inductive OutputFormat where
  | text
  | json
deriving DecidableEq, Repr

/-- How the value of a configuration entry is to be read. -/
inductive ValueSort where
  | text
  | bool
  | number
deriving DecidableEq, Repr

/-- What is to be done with the global configuration. -/
inductive ConfigAction where
  | create (force : Bool)
  | list
  | path
  | set (name value : Text) (sort : ValueSort)
  | unset (name : Text)
deriving DecidableEq, Repr

/-- What is to be rendered, with which values and to where. -/
structure RenderRequest where
  input : Text
  assignments : List Text
  enabled : List Text
  disabled : List Text
  valuesFile : Option Text
  ignoresConfig : Bool
  output : Option Text
deriving DecidableEq, Repr

inductive Command where
  | parse (input : Text) (format : OutputFormat)
  | render (request : RenderRequest)
  | controls (inputs : List Text) (format : OutputFormat)
  | check (inputs : List Text) (strict : Bool) (format : OutputFormat)
  | config (action : ConfigAction)
deriving DecidableEq, Repr

/-- Settings that hold for every command: which messages are logged, and where the global
configuration is if not at its usual place. -/
structure Settings where
  logLevel : Option Text
  configPath : Option Text
deriving DecidableEq, Repr

namespace Settings

def empty : Settings := ⟨none, none⟩

def withLogLevel (s : Settings) (level : Text) : Settings := { s with logLevel := some level }

def withConfigPath (s : Settings) (path : Text) : Settings := { s with configPath := some path }

end Settings

/-- A command with the options that stand outside of it. -/
structure Invocation where
  verbose : Bool
  quiet : Bool
  configPath : Option Text
  command : Command
deriving DecidableEq, Repr

namespace Invocation

open CommandLine

/-! ### The grammar -/

def option (name : String) (short : Option Char) (sort : OptionSort) : OptionRule :=
  ⟨name.toList, short, sort⟩

/-- Options of every command. -/
def commonOptions : List OptionRule :=
  [option "verbose" (some 'v') .flag, option "quiet" (some 'q') .flag,
    option "config" (some 'c') (.value false .path), option "help" (some 'h') .help]

def verbosityConflict : Text × Text := ("verbose".toList, "quiet".toList)

def formatOption : OptionRule :=
  option "format" none (.value false (.choice ["text".toList, "json".toList]))

/-- A command with options of its own and a number of arguments, and none within it. -/
def leaf (name : String) (options : List OptionRule) (least : Nat) (greatest : Option Nat) :
    Grammar :=
  { name := name.toList
    options := options ++ commonOptions
    conflicts := [verbosityConflict]
    leastArguments := least
    greatestArguments := greatest
    commands := []
    needsCommand := false }

def renderGrammar : Grammar :=
  leaf "render"
    [option "set" (some 's') (.value true .anyText), option "enable" none (.value true .anyText),
      option "disable" none (.value true .anyText), option "values" none (.value false .path),
      option "no-global" none .flag, option "output" (some 'o') (.value false .path)]
    1 (some 1)

def setGrammar : Grammar :=
  let plain := leaf "set" [option "bool" none .flag, option "number" none .flag] 2 (some 2)
  { plain with conflicts := ("bool".toList, "number".toList) :: plain.conflicts }

def configGrammar : Grammar :=
  { leaf "config" [] 0 (some 0) with
    commands :=
      [leaf "init" [option "force" none .flag] 0 (some 0), leaf "show" [] 0 (some 0),
        leaf "path" [] 0 (some 0), setGrammar, leaf "unset" [] 1 (some 1)] }

/-- The grammar of the whole command line. -/
def grammar : Grammar :=
  { name := "promptctl".toList
    options := option "version" (some 'V') .version :: commonOptions
    conflicts := [verbosityConflict]
    leastArguments := 0
    greatestArguments := some 0
    commands :=
      [leaf "parse" [formatOption] 1 (some 1), renderGrammar,
        leaf "controls" [formatOption] 1 none,
        leaf "check" [option "strict" none .flag, formatOption] 1 none, configGrammar]
    needsCommand := true }

/-! ### From words to commands -/

def formatOf (r : Reading) : OutputFormat :=
  if r.value? "format" = some "json".toList then .json else .text

/-- The argument at a position, which the grammar has made sure of. -/
def argument (r : Reading) (position : Nat) : Text := r.arguments.getD position []

def renderRequest (r : Reading) : RenderRequest :=
  { input := argument r 0
    assignments := r.valuesOf "set"
    enabled := r.valuesOf "enable"
    disabled := r.valuesOf "disable"
    valuesFile := r.value? "values"
    ignoresConfig := r.hasFlag "no-global"
    output := r.value? "output" }

/-- The action of the levels within the configuration command. -/
def configAction : List (Text × Reading) → ConfigAction
  | [] => .list
  | (name, r) :: _ =>
    if name = "init".toList then .create (r.hasFlag "force")
    else if name = "path".toList then .path
    else if name = "set".toList then
      .set (argument r 0) (argument r 1)
        (if r.hasFlag "bool" then .bool else if r.hasFlag "number" then .number else .text)
    else if name = "unset".toList then .unset (argument r 0)
    else .list

/-- The command of the levels below the program itself. -/
def commandOf? : List (Text × Reading) → Option Command
  | [] => none
  | (name, r) :: inner =>
    if name = "parse".toList then some (.parse (argument r 0) (formatOf r))
    else if name = "render".toList then some (.render (renderRequest r))
    else if name = "controls".toList then some (.controls r.arguments (formatOf r))
    else if name = "check".toList then
      some (.check r.arguments (r.hasFlag "strict") (formatOf r))
    else if name = "config".toList then some (.config (configAction inner))
    else none

/-- The invocation that a command line spells. An option that every command has counts
wherever it stands, and of two configuration paths the innermost one. -/
def read (words : List Text) : Except Stop Invocation :=
  (CommandLine.read grammar words).bind fun levels ↦
    match commandOf? levels.tail with
    | none => .error .missingCommand
    | some command =>
      .ok
        { verbose := levels.any fun (_, r) ↦ r.hasFlag "verbose"
          quiet := levels.any fun (_, r) ↦ r.hasFlag "quiet"
          configPath := (levels.filterMap fun (_, r) ↦ r.value? "config").getLast?
          command }

/-- The settings that the options ask for. -/
def settings (i : Invocation) : Settings :=
  { logLevel := some <|
      if i.verbose then "debug".toList
      else if i.quiet then "error".toList
      else "warn".toList
    configPath := i.configPath }

end Invocation

end PromptTemplate
