import PromptTemplate.Toml.Layout
import PromptTemplate.Text.Hexadecimal

/-!
The four forms of TOML strings, read from behind their opening quotes. Basic forms have
escapes, literal ones hold their text as it is, and either goes over several lines between
three quotes on each side.
-/

set_option autoImplicit false
set_option relaxedAutoImplicit false

namespace PromptTemplate.Toml

/-- The character of an escape with one letter. -/
def escapeLetter? : Char → Option Char
  | 'b' => some '\x08'
  | 't' => some '\t'
  | 'n' => some '\n'
  | 'f' => some '\x0c'
  | 'r' => some '\r'
  | 'e' => some '\x1b'
  | '"' => some '"'
  | '\\' => some '\\'
  | _ => none

/-- The character with a code point in hexadecimal digits. -/
def codedChar? (digits : Text) : Option Char :=
  (Text.hexNumber? digits).bind fun n ↦
    if n < 0xd800 ∨ (0xe000 ≤ n ∧ n < 0x110000) then some (Char.ofNat n) else none

/-- The text of a basic string from behind its opening quote, and what follows it. -/
def readBasic? : Text → Option (Text × Text)
  | [] => none
  | '"' :: t => some ([], t)
  | '\\' :: 'x' :: a :: b :: t =>
    (codedChar? [a, b]).bind fun char ↦
      (readBasic? t).map fun (s, rest) ↦ (char :: s, rest)
  | '\\' :: 'u' :: a :: b :: c :: d :: t =>
    (codedChar? [a, b, c, d]).bind fun char ↦
      (readBasic? t).map fun (s, rest) ↦ (char :: s, rest)
  | '\\' :: 'U' :: a :: b :: c :: d :: e :: f :: g :: h :: t =>
    (codedChar? [a, b, c, d, e, f, g, h]).bind fun char ↦
      (readBasic? t).map fun (s, rest) ↦ (char :: s, rest)
  | '\\' :: c :: t =>
    (escapeLetter? c).bind fun char ↦
      (readBasic? t).map fun (s, rest) ↦ (char :: s, rest)
  | c :: t =>
    if isControl c || c == '\\' then none
    else (readBasic? t).map fun (s, rest) ↦ (c :: s, rest)

/-- The text of a literal string from behind its opening quote, and what follows it. -/
def readLiteral? : Text → Option (Text × Text)
  | [] => none
  | '\'' :: t => some ([], t)
  | c :: t =>
    if isControl c then none else (readLiteral? t).map fun (s, rest) ↦ (c :: s, rest)

/-- The end of a multi-line string from behind its three closing quotes: up to two more
quotes belong to the string. -/
def readClosing (quote : Char) (t : Text) : Text × Text :=
  let extra := ((t.take 2).takeWhile (· == quote))
  (extra, t.drop extra.length)

/-- Whether a backslash before this text joins lines: nothing but blanks are left on the line. -/
def joinsLines (t : Text) : Bool := (afterNewLine? (skipBlanks t)).isSome

/-- The text of a multi-line basic string from behind its opening quotes, and what follows
it. While lines are joined, blanks and ends of lines are passed over. -/
def readLines? (joining : Bool) : Text → Option (Text × Text)
  | [] => none
  | c :: t =>
    if joining && (isBlank c || c == '\n') then readLines? true t
    else if c = '\r' then
      match t with
      | '\n' :: t =>
        (readLines? joining t).map fun (s, rest) ↦
          (if joining then s else '\r' :: '\n' :: s, rest)
      | _ => none
    else if c = '"' then
      match t with
      | '"' :: '"' :: t => some (readClosing '"' t)
      | t => (readLines? false t).map fun (s, rest) ↦ ('"' :: s, rest)
    else if c = '\\' then
      if joinsLines t then readLines? true t
      else
        match t with
        | 'x' :: a :: b :: t =>
          (codedChar? [a, b]).bind fun char ↦
            (readLines? false t).map fun (s, rest) ↦ (char :: s, rest)
        | 'u' :: a :: b :: c :: d :: t =>
          (codedChar? [a, b, c, d]).bind fun char ↦
            (readLines? false t).map fun (s, rest) ↦ (char :: s, rest)
        | 'U' :: a :: b :: c :: d :: e :: f :: g :: h :: t =>
          (codedChar? [a, b, c, d, e, f, g, h]).bind fun char ↦
            (readLines? false t).map fun (s, rest) ↦ (char :: s, rest)
        | c :: t =>
          (escapeLetter? c).bind fun char ↦
            (readLines? false t).map fun (s, rest) ↦ (char :: s, rest)
        | [] => none
    else if isControl c && c != '\n' then none
    else (readLines? false t).map fun (s, rest) ↦ (c :: s, rest)

/-- The text of a multi-line literal string from behind its opening quotes, and what follows
it. -/
def readLiteralLines? : Text → Option (Text × Text)
  | [] => none
  | '\'' :: '\'' :: '\'' :: t => some (readClosing '\'' t)
  | '\r' :: '\n' :: t =>
    (readLiteralLines? t).map fun (s, rest) ↦ ('\r' :: '\n' :: s, rest)
  | c :: t =>
    if isControl c && c != '\n' then none
    else (readLiteralLines? t).map fun (s, rest) ↦ (c :: s, rest)

/-- A multi-line string without the end of a line behind its opening quotes. -/
def skipFirstNewLine (t : Text) : Text := (afterNewLine? t).getD t

end PromptTemplate.Toml
