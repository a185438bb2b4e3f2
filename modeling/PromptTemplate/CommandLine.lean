import PromptTemplate.Text

/-!
Command lines. A grammar says which options, arguments and commands may stand where; a line
is read from left to right, one level of commands after the other. Options come in a long
and maybe a short form, a value is attached or stands behind its option, and everything
behind `--` is an argument. The innermost command is judged first: its flaws are told before
those of the commands around it.
-/

set_option autoImplicit false
set_option relaxedAutoImplicit false

namespace PromptTemplate.CommandLine

/-- What may be given as the value of an option. -/
inductive Domain where
  | anyText
  | path
  | choice (names : List Text)

def Domain.accepts : Domain → Text → Bool
  | .anyText, _ => true
  | .path, value => !value.isEmpty
  | .choice names, value => names.contains value

/-- What an option is for: it asks for help or for the version, it is set or not, or it takes
a value, maybe more than once. -/
inductive OptionSort where
  | help
  | version
  | flag
  | value (repeats : Bool) (domain : Domain)

structure OptionRule where
  name : Text
  short : Option Char
  sort : OptionSort

/-- What may stand behind a command: its options, some pairs of which exclude each other, so
many arguments, and further commands. -/
structure Grammar where
  name : Text
  options : List OptionRule
  conflicts : List (Text × Text)
  leastArguments : Nat
  greatestArguments : Option Nat
  commands : List Grammar
  needsCommand : Bool

/-- Why a command line is not carried out. Help and the version are asked for; all else is an
error. -/
inductive Stop where
  | help
  | version
  | noArguments
  | missingCommand
  | invalidCommand (name : Text)
  | unknownArgument (argument : Text)
  | missingArgument
  | invalidValue (option : Text)
  | conflict (option other : Text)
  | tooManyValues (option : Text)
deriving DecidableEq, Repr

/-- Whether a stop is an error. -/
def Stop.isError : Stop → Bool
  | .help => false
  | .version => false
  | _ => true

/-- An option whose value is still to be judged, and the value if it has been given. -/
structure Pending where
  rule : OptionRule
  value : Option Text

/-- What has been read at one level. -/
structure Reading where
  flags : List Text
  values : List (Text × Text)
  arguments : List Text
  pending : Option Pending
  escaped : Bool

namespace Reading

def empty : Reading := ⟨[], [], [], none, false⟩

def hasFlag (r : Reading) (name : String) : Bool := r.flags.contains name.toList

/-- The values of an option in the order in which they were given. -/
def valuesOf (r : Reading) (name : String) : List Text :=
  (r.values.filter fun entry ↦ entry.1 = name.toList).map (·.2)

def value? (r : Reading) (name : String) : Option Text := (r.valuesOf name).getLast?

/-- Whether an option was given at all. -/
def hasOption (r : Reading) (name : Text) : Bool :=
  r.flags.contains name || r.values.any (·.1 = name)

/-- Whether nothing was given at all. -/
def isEmpty (r : Reading) : Bool := r.flags.isEmpty && r.values.isEmpty && r.arguments.isEmpty

/-- Judges a value and adds it. An option that does not repeat is given once. -/
def addValue (r : Reading) (rule : OptionRule) (value : Text) : Except Stop Reading :=
  match rule.sort with
  | .value repeats domain =>
    if !repeats && r.hasOption rule.name then .error (.conflict rule.name rule.name)
    else if domain.accepts value then
      .ok { r with values := r.values ++ [(rule.name, value)] }
    else .error (.invalidValue rule.name)
  | _ => .error (.tooManyValues rule.name)

/-- Judges the option that is pending, which must have a value by now. -/
def settle (r : Reading) : Except Stop Reading :=
  match r.pending with
  | none => .ok r
  | some ⟨rule, none⟩ => .error (.invalidValue rule.name)
  | some ⟨rule, some value⟩ => addValue { r with pending := none } rule value

/-- Takes an option without a value attached to it. -/
def takeOption (r : Reading) (rule : OptionRule) : Except Stop Reading :=
  r.settle.bind fun r ↦
    match rule.sort with
    | .help => .error .help
    | .version => .error .version
    | .flag =>
      if r.hasOption rule.name then .error (.conflict rule.name rule.name)
      else .ok { r with flags := r.flags ++ [rule.name] }
    | .value .. => .ok { r with pending := some ⟨rule, none⟩ }

/-- Takes an option with a value attached to it. -/
def takeAttached (r : Reading) (rule : OptionRule) (value : Text) : Except Stop Reading :=
  match rule.sort with
  | .value .. => r.settle.bind fun r ↦ r.addValue rule value
  | _ => .error (.tooManyValues rule.name)

/-- Whether the next word is the value of the option before it. -/
def awaitsValue (r : Reading) : Bool :=
  match r.pending with
  | some ⟨_, none⟩ => true
  | _ => false

/-- Gives the option before it a value. -/
def giveValue (r : Reading) (value : Text) : Reading :=
  { r with pending := r.pending.map fun p ↦ { p with value := some value } }

/-- Takes options in their short forms, the last of which may have a value attached. -/
def takeShort (grammar : Grammar) (r : Reading) : Text → Except Stop Reading
  | [] => .ok r
  | c :: rest =>
    match grammar.options.find? fun rule ↦ rule.short = some c with
    | none => .error (.unknownArgument ['-', c])
    | some rule =>
      match rule.sort, rest with
      | .value .., '=' :: value => r.takeAttached rule value
      | .value .., [] => r.takeOption rule
      | .value .., value => r.takeAttached rule value
      | _, rest => (r.takeOption rule).bind fun r ↦ takeShort grammar r rest

/-- Takes an option in its long form, from behind the hyphens. -/
def takeLong (grammar : Grammar) (r : Reading) (word : Text) : Except Stop Reading :=
  let (name, value?) := match Text.splitFirst? '=' word with
    | some (name, value) => (name, some value)
    | none => (word, none)
  match grammar.options.find? fun rule ↦ rule.name = name with
  | none => .error (.unknownArgument ('-' :: '-' :: name))
  | some rule =>
    match value? with
    | some value => r.takeAttached rule value
    | none => r.takeOption rule

/-- Takes an argument. Where no more of them can stand, a word is taken for a command. -/
def takeArgument (grammar : Grammar) (r : Reading) (word : Text) : Except Stop Reading :=
  let isFull := grammar.greatestArguments.any (· ≤ r.arguments.length)
  if isFull then
    let isCommand := word = "help".toList || grammar.commands.any fun g ↦ g.name = word
    if grammar.commands.isEmpty || isCommand then .error (.unknownArgument word)
    else .error (.invalidCommand word)
  else r.settle.map fun r ↦ { r with arguments := r.arguments ++ [word] }

end Reading

/-- The command whose help is asked for by `help` and the words behind it. -/
def helpFor (grammar : Grammar) : List Text → Stop
  | [] => .help
  | word :: words =>
    if word = "help".toList ∧ !grammar.commands.isEmpty then
      match words with
      | [] => .help
      | word :: _ => .invalidCommand word
    else
      match grammar.commands.find? fun g ↦ g.name = word with
      | none => .invalidCommand word
      | some g => helpFor g words

/-- Reads the words of one level up to a further command, which comes with the words behind
it. -/
def readLevel (grammar : Grammar) (r : Reading) :
    List Text → Except Stop (Reading × Option (Grammar × List Text))
  | [] => .ok (r, none)
  | word :: words =>
    if r.escaped then
      (r.takeArgument grammar word).bind fun r ↦ readLevel grammar r words
    else
      match (if r.awaitsValue then none else grammar.commands.find? fun g ↦ g.name = word) with
      | some g => .ok (r, some (g, words))
      | none =>
        if !r.awaitsValue && word = "help".toList && !grammar.commands.isEmpty then
          .error (helpFor grammar words)
        else
          match word with
          | ['-', '-'] => readLevel grammar { r with escaped := true } words
          | '-' :: '-' :: long =>
            (r.takeLong grammar long).bind fun r ↦ readLevel grammar r words
          | '-' :: c :: short =>
            (r.takeShort grammar (c :: short)).bind fun r ↦ readLevel grammar r words
          | word =>
            if r.awaitsValue then readLevel grammar (r.giveValue word) words
            else (r.takeArgument grammar word).bind fun r ↦ readLevel grammar r words

/-- Whether a level has all that it needs and nothing that excludes something else. -/
def judge (grammar : Grammar) (r : Reading) (hasCommand : Bool) : Except Stop Unit :=
  if !hasCommand && grammar.needsCommand then
    if r.isEmpty then .error .noArguments else .error .missingCommand
  else
    match grammar.conflicts.find? fun (a, b) ↦ r.hasOption a && r.hasOption b with
    | some (a, b) => .error (.conflict a b)
    | none =>
      if r.arguments.length < grammar.leastArguments then .error .missingArgument else .ok ()

/-- Reads the words of a level and of those within it, each with the name of its command. The
first number bounds the levels. -/
def readLevels : Nat → Grammar → List Text → Except Stop (List (Text × Reading))
  | 0, _, _ => .ok []
  | levels + 1, grammar, words =>
    (readLevel grammar .empty words).bind fun (r, next) ↦ do
      let inner ← match next with
        | some (g, rest) => readLevels levels g rest
        | none => pure []
      let r ← r.settle
      judge grammar r next.isSome
      pure ((grammar.name, r) :: inner)

/-- Reads a command line without the name of the program. -/
def read (grammar : Grammar) (words : List Text) : Except Stop (List (Text × Reading)) :=
  readLevels (words.length + 1) grammar words

end PromptTemplate.CommandLine
