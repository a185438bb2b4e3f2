import PromptTemplate.FileTree
import PromptTemplate.ValueMap.Reading
import PromptTemplate.Toml.Writer

/-!
The global configuration, a table of values that hold for every template. Its file is TOML
with the values under `values`; other keys of the file are passed over, and no file is as
good as a file without values.
-/

set_option autoImplicit false
set_option relaxedAutoImplicit false

namespace PromptTemplate

/-- The values that hold wherever no others are given. -/
structure Config where
  values : ValueMap
deriving DecidableEq

namespace Config

def empty : Config := ⟨.empty⟩

/-- The configuration that a user starts from. -/
def starter : Config :=
  ⟨.ofList [("Tone".toList, .text "friendly".toList), ("Include_Examples".toList, .bool true),
    ("Creativity".toList, .number (.ofInt 70))]⟩

/-- Where the configuration of a home directory is kept, if there is a home directory. -/
def defaultPath : Option Text → Except Fault Text
  | some home =>
    .ok (FilePath.append (FilePath.append home ".promptctl".toList) "config.toml".toList)
  | none => .error ⟨.plain "Unable to determine home directory".toList, []⟩

/-- The path that is asked for, or else the one in the home directory. -/
def pathOr (home path : Option Text) : Except Fault Text :=
  match path with
  | some path => .ok path
  | none => defaultPath home

/-- The name of a moment that is given in the place of the values. -/
def momentName : Text := "$__toml_private_datetime".toList

/-- The configuration that a TOML document states. A moment in the place of the table is as
good as a table with the moment under a name of its own. -/
def ofTomlText (t : Text) : Except ValuesFault Config :=
  match Toml.ofText? t with
  | none => .error .malformed
  | some entries =>
    match Toml.find? "values".toList entries with
    | none => .ok empty
    | some (.table _ entries) => (ValueMap.ofEntries Value.ofToml? entries).map Config.mk
    | some (.moment moment) => .ok ⟨.ofList [(momentName, .text moment.text)]⟩
    | some _ => .error .noTable

/-- A value in TOML. -/
def writeValue : Value → Text
  | .bool true => "true".toList
  | .bool false => "false".toList
  | .number x => Toml.writeNumber x
  | .text t => Toml.writeText t

/-- The line of a value. -/
def writeEntry (entry : Text × Value) : Text :=
  Toml.writeKey entry.1 ++ [' ', '=', ' '] ++ writeValue entry.2 ++ ['\n']

/-- The configuration as a TOML document, which is empty if there are no values. -/
def toTomlText (config : Config) : Text :=
  if config.values.isEmpty then []
  else "[values]\n".toList ++ config.values.entries.flatMap writeEntry

/-- Reads a configuration file. -/
def loadFrom (fs : FileSystem) (path : Text) : Except Fault Config :=
  (fs.readText path ("Failed to read global config from ".toList ++ path)).bind fun t ↦
    match ofTomlText t with
    | .ok config => .ok config
    | .error fault => .error (.ofFailure (.configParseError path fault.message))

/-- Reads a configuration file if it is there. -/
def load (fs : FileSystem) (path : Text) : Except Fault Config :=
  if fs.has path then loadFrom fs path else .ok empty

/-- Writes a configuration file. -/
def save (config : Config) (fs : FileSystem) (path : Text) : FileSystem × Option Fault :=
  fs.store path (.text config.toTomlText) "Failed to create config directory: "
    "Failed to write global config to "

def get? (config : Config) (name : Text) : Option Value := config.values.get? name

def set (config : Config) (name : Text) (value : Value) : Config :=
  ⟨config.values.insert name value⟩

/-- The configuration without a value for a name. -/
def unset (config : Config) (name : Text) : Config := ⟨config.values.erase name⟩

end Config

end PromptTemplate
