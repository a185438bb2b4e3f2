import PromptTemplate.Number.Binary64
import PromptTemplate.Toml.Moment

/-!
TOML tables and how a document fills them. Every table remembers how it came to be, since
that decides what may still be added to it: a table is opened by at most one header, an
inline table is closed for good, and a dotted key adds only to tables that dotted keys
brought about.
-/

set_option autoImplicit false
set_option relaxedAutoImplicit false

namespace PromptTemplate

/-- What brought a table about: its own header, the header of a table within it, a dotted
key, or its braces. -/
inductive Toml.Origin where
  | header
  | implied
  | dotted
  | inline
deriving DecidableEq, Repr

/-- Whether a path may pass a table, or end in it. The path of a header may do so with any
table but an inline one. A dotted key passes no table that has a header, and it ends in a
table of dotted keys. -/
def Toml.Origin.admits (dotted ends : Bool) : Origin → Bool
  | .header => !dotted
  | .implied => !dotted || !ends
  | .dotted => true
  | .inline => false

/-- A TOML value. `tables` is the array that double-bracket headers add to. -/
inductive Toml where
  | text (value : Text)
  | integer (value : Int)
  | real (value : Binary64)
  | bool (value : Bool)
  | moment (value : Toml.Moment)
  | array (items : List Toml)
  | tables (items : List Toml)
  | table (origin : Toml.Origin) (entries : List (Text × Toml))
deriving Inhabited

namespace Toml

/-- The entries of a table, in the order in which they were written. -/
abbrev Entries := List (Text × Toml)

/-- The value of a key. -/
def find? (key : Text) (entries : Entries) : Option Toml :=
  (entries.find? fun entry ↦ entry.1 = key).map (·.2)

/-- The entries with another value for a key that they have. -/
def replace (key : Text) (value : Toml) (entries : Entries) : Entries :=
  entries.map fun entry ↦ if entry.1 = key then (key, value) else entry

/-- Adds an entry; a key is given once. -/
def define? (key : Text) (value : Toml) (entries : Entries) : Option Entries :=
  if (find? key entries).isSome then none else some (entries ++ [(key, value)])

/-- Changes the table at the end of a path. In an array of tables the path goes on in the
last one, which has a header, but a dotted key does not end there. Tables that are missing on
the way are made. -/
def change? (dotted : Bool) (change : Entries → Option Entries) :
    List Text → Entries → Option Entries
  | [], entries => change entries
  | key :: path, entries =>
    match find? key entries with
    | none =>
      (change? dotted change path []).map fun inner ↦
        entries ++ [(key, .table (if dotted then .dotted else .implied) inner)]
    | some (.table origin inner) =>
      if origin.admits dotted path.isEmpty then
        (change? dotted change path inner).map fun inner ↦
          replace key (.table origin inner) entries
      else none
    | some (.tables items) =>
      match items.getLast? with
      | some (.table origin inner) =>
        if dotted && path.isEmpty then none
        else
          (change? dotted change path inner).map fun inner ↦
            replace key (.tables (items.dropLast ++ [.table origin inner])) entries
      | _ => none
    | some _ => none

/-- Opens a table by its header. -/
def open? (key : Text) (entries : Entries) : Option Entries :=
  match find? key entries with
  | none => some (entries ++ [(key, .table .header [])])
  | some (.table .implied inner) => some (replace key (.table .header inner) entries)
  | some _ => none

/-- Opens the next table of an array of tables. -/
def openNext? (key : Text) (entries : Entries) : Option Entries :=
  match find? key entries with
  | none => some (entries ++ [(key, .tables [.table .header []])])
  | some (.tables items) =>
    some (replace key (.tables (items ++ [.table .header []])) entries)
  | some _ => none

/-- Defines a dotted key in a table. -/
def defineDotted? (key : List Text) (value : Toml) (entries : Entries) : Option Entries :=
  match key.getLast? with
  | none => none
  | some last => change? true (define? last value) key.dropLast entries

end Toml

end PromptTemplate
