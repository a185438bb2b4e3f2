import PromptTemplate.Toml.Strings
import PromptTemplate.Toml.Word

/-!
Reading TOML. A document is a sequence of lines: headers, which open tables, and entries,
which go to the table that was opened last. `Toml.ofText?` answers with the entries of the
root table, and with nothing if a line is no TOML or defines what is defined already. Arrays
and inline tables go over any number of lines. They nest to a limit, which holds for the
parts of a key as well.
-/

set_option autoImplicit false
set_option relaxedAutoImplicit false

namespace PromptTemplate.Toml

/-! ### Keys -/

/-- The characters of a key without quotes. -/
def isBare (c : Char) : Bool := c.isAlphanum || c == '_' || c == '-'

/-- One part of a key at the head of a text, and the rest. -/
def readKeyPart? : Text → Option (Text × Text)
  | '"' :: t => readBasic? t
  | '\'' :: t => readLiteral? t
  | t =>
    let key := t.takeWhile isBare
    if key.isEmpty then none else some (key, t.dropWhile isBare)

/-- How many arrays and inline tables may stand in each other, and how many parts a key may
have. -/
def greatestDepth : Nat := 80

/-- A key with its parts between dots, and what follows it and blanks. The number bounds the
parts. -/
def readKeyWithin? : Nat → Text → Option (List Text × Text)
  | 0, _ => none
  | parts + 1, t =>
    (readKeyPart? (skipBlanks t)).bind fun (part, t) ↦
      match skipBlanks t with
      | '.' :: t => (readKeyWithin? parts t).map fun (more, rest) ↦ (part :: more, rest)
      | t => some ([part], t)

/-- A key of no more parts than a key may have, and what follows it and blanks. -/
def readKey? (t : Text) : Option (List Text × Text) := readKeyWithin? greatestDepth t

/-! ### Values and documents -/

mutual

/-- A value at the head of a text, and the rest. The first number bounds the characters, and
the second one the arrays and inline tables in each other. -/
def readValue? : Nat → Nat → Text → Option (Toml × Text)
  | 0, _, _ => none
  | fuel + 1, depth, t =>
    match t with
    | '"' :: '"' :: '"' :: t =>
      (readLines? false (skipFirstNewLine t)).map fun (s, rest) ↦ (.text s, rest)
    | '"' :: t => (readBasic? t).map fun (s, rest) ↦ (.text s, rest)
    | '\'' :: '\'' :: '\'' :: t =>
      (readLiteralLines? (skipFirstNewLine t)).map fun (s, rest) ↦ (.text s, rest)
    | '\'' :: t => (readLiteral? t).map fun (s, rest) ↦ (.text s, rest)
    | '[' :: t =>
      match depth with
      | 0 => none
      | depth + 1 => (readItems? fuel depth t).map fun (items, rest) ↦ (.array items, rest)
    | '{' :: t =>
      match depth with
      | 0 => none
      | depth + 1 =>
        (readFields? fuel depth [] t).map fun (entries, rest) ↦ (.table .inline entries, rest)
    | t =>
      let (word, rest) := readWord t
      (ofWord? word).map (·, rest)

/-- The elements of an array up to its end. -/
def readItems? : Nat → Nat → Text → Option (List Toml × Text)
  | 0, _, _ => none
  | fuel + 1, depth, t =>
    (skipLines? fuel t).bind fun t ↦
      match t with
      | ']' :: t => some ([], t)
      | t =>
        (readValue? fuel depth t).bind fun (item, t) ↦
          (skipLines? fuel t).bind fun t ↦
            match t with
            | ',' :: t =>
              (readItems? fuel depth t).map fun (items, rest) ↦ (item :: items, rest)
            | ']' :: t => some ([item], t)
            | _ => none

/-- The entries of an inline table up to its end, behind those that it has already. -/
def readFields? : Nat → Nat → Entries → Text → Option (Entries × Text)
  | 0, _, _, _ => none
  | fuel + 1, depth, entries, t =>
    (skipLines? fuel t).bind fun t ↦
      match t with
      | '}' :: t => some (entries, t)
      | t =>
        (readKey? t).bind fun (key, t) ↦
          (skipLines? fuel t).bind fun t ↦
            match t with
            | '=' :: t =>
              (skipLines? fuel t).bind fun t ↦
                (readValue? fuel depth t).bind fun (value, t) ↦
                  (defineDotted? key value entries).bind fun entries ↦
                    (skipLines? fuel t).bind fun t ↦
                      match t with
                      | ',' :: t => readFields? fuel depth entries t
                      | '}' :: t => some (entries, t)
                      | _ => none
            | _ => none

end

/-- A document that is being read: the entries of its root so far and the path of the table
that was opened last. -/
structure Draft where
  root : Entries
  path : List Text

/-- Opens the table of a header. -/
def Draft.openTable? (draft : Draft) (next : Bool) (path : List Text) : Option Draft :=
  match path.getLast? with
  | none => none
  | some last =>
    (change? false (if next then openNext? last else open? last) path.dropLast draft.root).map
      fun root ↦ ⟨root, path⟩

/-- Adds an entry to the table that was opened last. -/
def Draft.define? (draft : Draft) (key : List Text) (value : Toml) : Option Draft :=
  (change? false (defineDotted? key value) draft.path draft.root).map fun root ↦
    { draft with root }

/-- Reads one header or entry at the head of a text, with the rest of its line. -/
def Draft.readLine? (draft : Draft) (t : Text) : Option (Draft × Text) :=
  match t with
  | '[' :: '[' :: t => do
    let (path, t) ← readKey? t
    match t with
    | ']' :: ']' :: t =>
      let draft ← draft.openTable? true path
      let t ← afterLine? t
      pure (draft, t)
    | _ => none
  | '[' :: t => do
    let (path, t) ← readKey? t
    match t with
    | ']' :: t =>
      let draft ← draft.openTable? false path
      let t ← afterLine? t
      pure (draft, t)
    | _ => none
  | t => do
    let (key, t) ← readKey? t
    match t with
    | '=' :: t =>
      let t := skipBlanks t
      let (value, t) ← readValue? (2 * (t.length + 1)) greatestDepth t
      let draft ← draft.define? key value
      let t ← afterLine? t
      pure (draft, t)
    | _ => none

/-- Reads the headers and entries of a text up to its end. The number bounds them. -/
def Draft.readAll? : Nat → Draft → Text → Option Draft
  | 0, _, _ => none
  | lines + 1, draft, t =>
    (skipLines? (t.length + 1) t).bind fun t ↦
      if t.isEmpty then some draft
      else (draft.readLine? t).bind fun (draft, t) ↦ readAll? lines draft t

/-- The entries of the root table of a document. A byte-order mark in front is passed over. -/
def ofText? (t : Text) : Option Entries :=
  let t := match t with
    | '\uFEFF' :: t => t
    | t => t
  (Draft.readAll? (t.length + 1) ⟨[], []⟩ t).map (·.root)

end PromptTemplate.Toml
