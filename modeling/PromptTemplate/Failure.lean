import PromptTemplate.Number.Integer

/-!
What can go wrong around templates, and how it is told. A `Failure` is one of the causes that
this program knows; a `Fault` is any cause with the contexts that it passed through.
`Fault.report` goes through the chain from the outermost context to the cause for a link of a
sort that it recognizes: a known failure brings its own advice, and a fault of the system or
of a file format keeps its text as the details.
-/

set_option autoImplicit false
set_option relaxedAutoImplicit false

namespace PromptTemplate

/-- A cause of failure that is known here. -/
inductive Failure where
  | templateNotFound (path : Text)
  | templateReadFailed (path reason : Text)
  | noMatchingFiles (pattern : Text)
  | invalidAssignment (input : Text)
  | valuesParseError (file reason : Text)
  | unsupportedValuesFormat (file : Text)
  | configParseError (file reason : Text)
  | configError (message : Text)
  | checkFailed (count : Nat)
  | other (message : Text)
deriving DecidableEq, Repr

/-- What a user is told: the failure, and maybe details and a suggestion. -/
structure Report where
  failure : Failure
  details : Option Text
  suggestion : Option Text
deriving DecidableEq, Repr

namespace Failure

def message : Failure → Text
  | .templateNotFound path => "Template file not found: ".toList ++ path
  | .templateReadFailed path reason =>
    "Failed to read template ".toList ++ path ++ ": ".toList ++ reason
  | .noMatchingFiles pattern => "No files match '".toList ++ pattern ++ "'".toList
  | .invalidAssignment input =>
    "Invalid value assignment '".toList ++ input ++ "', expected NAME=VALUE".toList
  | .valuesParseError file reason =>
    "Invalid values file ".toList ++ file ++ ": ".toList ++ reason
  | .unsupportedValuesFormat file => "Unsupported values file format: ".toList ++ file
  | .configParseError file reason =>
    "Invalid configuration file ".toList ++ file ++ ": ".toList ++ reason
  | .configError message => "Configuration error: ".toList ++ message
  | .checkFailed count =>
    "Template check failed with ".toList ++ Natural.text count ++ " diagnostic(s)".toList
  | .other message => message

/-- More about a failure, where there is more to say. -/
def details : Failure → Option Text
  | .templateReadFailed .. =>
    some "The file exists but its contents could not be read as text".toList
  | .valuesParseError .. =>
    some ("Example (TOML): Name = \"Alice\"\nInclude_Details = true\n".toList ++
      "Creativity = 70".toList)
  | .configParseError .. => some "Global control values live under a [values] table".toList
  | _ => none

/-- What may help against a failure. -/
def suggestion : Failure → Option Text
  | .templateNotFound _ =>
    some "Check the path, or pass '-' to read the template from stdin".toList
  | .templateReadFailed .. => some "Templates must be UTF-8 text files".toList
  | .noMatchingFiles _ =>
    some "Check the pattern; quote it so the shell does not expand it first".toList
  | .invalidAssignment _ =>
    some "Use --set Name=value for text, or --enable/--disable Name for toggles".toList
  | .valuesParseError .. =>
    some "The values file must be a flat table of strings, numbers and booleans".toList
  | .unsupportedValuesFormat _ => some "Use a .json or .toml values file".toList
  | .configParseError .. =>
    some ("Fix the TOML syntax, or run 'promptctl config path' to locate the ".toList ++
      "file".toList)
  | .configError _ => some "Pass --config to point at a configuration file explicitly".toList
  | .checkFailed _ =>
    some "Fix the reported directives, or run without --strict to only warn".toList
  | .other _ => none

def report (failure : Failure) : Report := ⟨failure, failure.details, failure.suggestion⟩

end Failure

namespace Report

def message (r : Report) : Text := r.failure.message

/-- The report as one text. -/
def text (r : Report) : Text :=
  r.message ++
    (match r.details with
    | some details => "\nDetails: ".toList ++ details
    | none => []) ++
    match r.suggestion with
    | some suggestion => "\nSuggestion: ".toList ++ suggestion
    | none => []

/-- The report as it is shown, a line for each of its parts. -/
def display (r : Report) : Text :=
  "error: ".toList ++ r.message ++ ['\n'] ++
    (match r.details with
    | some details => "details: ".toList ++ details ++ ['\n']
    | none => []) ++
    match r.suggestion with
    | some suggestion => "suggestion: ".toList ++ suggestion ++ ['\n']
    | none => []

end Report

/-- The sorts of system faults that are told apart. -/
inductive SystemFault where
  | notFound
  | permissionDenied
  | uncategorized
deriving DecidableEq, Repr

/-- What lies at the bottom of a fault. -/
inductive Cause where
  | failure (failure : Failure)
  | report (report : Report)
  | system (sort : SystemFault) (text : Text)
  | json (text : Text)
  | toml (text : Text)
  | plain (text : Text)
deriving DecidableEq, Repr

namespace Cause

def text : Cause → Text
  | .failure f => f.message
  | .report r => r.text
  | .system _ text => text
  | .json text => text
  | .toml text => text
  | .plain text => text

/-- The text of a cause as the details under a headline, with a suggestion. -/
def advisedReport (cause : Cause) (headline : Text) (suggestion : String) : Report :=
  { failure := .other headline
    details := some cause.text
    suggestion := some suggestion.toList }

/-- What is told about a cause under a headline, if it is of a sort that is recognized. -/
def report? (headline : Text) (cause : Cause) : Option Report :=
  match cause with
  | .failure f => some f.report
  | .report r => some r
  | .system .permissionDenied _ =>
    some (cause.advisedReport headline
      "Check the file permissions or run from a directory you own")
  | .system .notFound _ =>
    some (cause.advisedReport headline
      "Check that the file or directory exists and the path is correct")
  | .json _ =>
    some (cause.advisedReport headline
      "Check the JSON syntax: values must be a flat object of strings, numbers and booleans")
  | .toml _ =>
    some (cause.advisedReport headline
      "Check the TOML syntax. Verify quotes, brackets and table headers")
  | .system .uncategorized _ => none
  | .plain _ => none

end Cause

/-- A cause and the contexts around it, the innermost first. -/
structure Fault where
  cause : Cause
  contexts : List Text
deriving DecidableEq, Repr

namespace Fault

def ofFailure (failure : Failure) : Fault := ⟨.failure failure, []⟩

/-- The fault with one more context around it. -/
def within (fault : Fault) (context : Text) : Fault :=
  { fault with contexts := fault.contexts ++ [context] }

/-- The links from the outermost context to the cause. A context is a link that is only text. -/
def chain (fault : Fault) : List Cause := fault.contexts.reverse.map .plain ++ [fault.cause]

/-- The outermost text. -/
def headline (fault : Fault) : Text :=
  match fault.contexts.getLast? with
  | some context => context
  | none => fault.cause.text

/-- The headline with the texts of the remaining links as details. -/
def plainReport (fault : Fault) : Report :=
  let below := fault.chain.tail.map Cause.text
  { failure := .other fault.headline
    details := if below.isEmpty then none else some (Text.join [':', ' '] below)
    suggestion := none }

/-- What a user is told about a fault: what is told about the outermost link that is recognized,
and if none is, the texts of all links. -/
def report (fault : Fault) : Report :=
  (fault.chain.findSome? (Cause.report? fault.headline)).getD fault.plainReport

end Fault

end PromptTemplate
