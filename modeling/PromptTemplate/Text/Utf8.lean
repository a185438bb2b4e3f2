import PromptTemplate.Number.Integer

/-!
UTF-8, read byte by byte. A sequence is refused at its first byte that cannot go on:
overlong forms, surrogates and code points beyond the last one are refused at the second
byte. `decode` answers with the text, or with the place of the first refused sequence and
the number of its bytes that were in order.
-/

set_option autoImplicit false
set_option relaxedAutoImplicit false

namespace PromptTemplate.Utf8

/-- Why bytes are not UTF-8. `start` is the offset of the first byte of the broken sequence. -/
inductive Fault where
  | invalid (start : Nat) (valid : Nat)
  | incomplete (start : Nat)
deriving DecidableEq, Repr

def Fault.message : Fault → Text
  | .invalid start valid =>
    "invalid utf-8 sequence of ".toList ++ Natural.text valid ++ " bytes from index ".toList ++
      Natural.text start
  | .incomplete start =>
    "incomplete utf-8 byte sequence from index ".toList ++ Natural.text start

/-- The number of bytes of a sequence and the range of its second byte, by its first byte. -/
def shape? (first : UInt8) : Option (Nat × UInt8 × UInt8) :=
  if first < 0x80 then some (1, 0x80, 0xbf)
  else if first < 0xc2 then none
  else if first < 0xe0 then some (2, 0x80, 0xbf)
  else if first = 0xe0 then some (3, 0xa0, 0xbf)
  else if first = 0xed then some (3, 0x80, 0x9f)
  else if first < 0xf0 then some (3, 0x80, 0xbf)
  else if first = 0xf0 then some (4, 0x90, 0xbf)
  else if first < 0xf4 then some (4, 0x80, 0xbf)
  else if first = 0xf4 then some (4, 0x80, 0x8f)
  else none

/-- The bits of a first byte that belong to the code point. -/
def leadingBits (first : UInt8) (size : Nat) : Nat :=
  match size with
  | 1 => first.toNat
  | 2 => first.toNat % 32
  | 3 => first.toNat % 16
  | _ => first.toNat % 8

/-- A sequence that has begun: where it starts, how many of its bytes were read and are
missing, the bits so far and the range of the next byte. -/
structure Pending where
  start : Nat
  taken : Nat
  missing : Nat
  bits : Nat
  least : UInt8
  greatest : UInt8

/-- Reads bytes from an offset on, with at most one sequence begun. The characters read so
far stand in reverse in `before`. -/
def decodeFrom (offset : Nat) (pending : Option Pending) (before : Text) :
    List UInt8 → Except Fault Text
  | [] =>
    match pending with
    | none => .ok before.reverse
    | some p => .error (.incomplete p.start)
  | byte :: bytes =>
    match pending with
    | some p =>
      if p.least ≤ byte ∧ byte ≤ p.greatest then
        let bits := p.bits * 64 + byte.toNat % 64
        if p.missing ≤ 1 then
          decodeFrom (offset + 1) none (Char.ofNat bits :: before) bytes
        else
          decodeFrom (offset + 1)
            (some ⟨p.start, p.taken + 1, p.missing - 1, bits, 0x80, 0xbf⟩) before bytes
      else .error (.invalid p.start p.taken)
    | none =>
      match shape? byte with
      | none => .error (.invalid offset 1)
      | some (size, least, greatest) =>
        if size ≤ 1 then
          decodeFrom (offset + 1) none (Char.ofNat byte.toNat :: before) bytes
        else
          decodeFrom (offset + 1)
            (some ⟨offset, 1, size - 1, leadingBits byte size, least, greatest⟩) before bytes

/-- The text that bytes spell, or the first place where they spell none. -/
def decode (bytes : List UInt8) : Except Fault Text := decodeFrom 0 none [] bytes

/-- The bytes of a text. -/
def encode (t : Text) : List UInt8 := t.flatMap String.utf8EncodeChar

end PromptTemplate.Utf8
