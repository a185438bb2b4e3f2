import PromptTemplate.Span

/-!
Reading a text from left to right for items of some kind. At each place the reader either
finds an item, and the search goes on behind it, or it does not, and the search goes on at
the next character. So the items come in order, no two of them share a byte, and each is
the first one that starts behind its predecessor.
-/

set_option autoImplicit false
set_option relaxedAutoImplicit false

namespace PromptTemplate

/-- An item that was found in a text, with the bytes that spell it. -/
structure Placed (α : Type) where
  item : α
  span : Span
deriving DecidableEq, Repr

namespace Scan

variable {α : Type}

/-- The items in a text that begins at a byte offset, behind as many characters as are to be
skipped. `read?` reads an item at the head of a text, and `source` is what spells it. -/
def itemsFrom (read? : Text → Option α) (source : α → Text) (offset skip : Nat) :
    Text → List (Placed α)
  | [] => []
  | c :: t =>
    match skip with
    | skip + 1 => itemsFrom read? source (offset + c.utf8Size) skip t
    | 0 =>
      match read? (c :: t) with
      | some item =>
        let span : Span := ⟨offset, offset + (source item).width⟩
        ⟨item, span⟩ ::
          itemsFrom read? source (offset + c.utf8Size) ((source item).length - 1) t
      | none => itemsFrom read? source (offset + c.utf8Size) 0 t

/-- The items in a text, leftmost first. -/
def items (read? : Text → Option α) (source : α → Text) (t : Text) : List (Placed α) :=
  itemsFrom read? source 0 0 t

end Scan

end PromptTemplate
