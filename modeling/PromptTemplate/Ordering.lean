/-!
Stable sorting. `sortBy` puts each element behind those that it does not have to precede,
so elements that are level keep their order, and the result has the same elements.
-/

set_option autoImplicit false
set_option relaxedAutoImplicit false

namespace PromptTemplate

variable {α : Type}

/-- Puts an element in front of the first one that it may stand before. -/
def insertBy (before : α → α → Bool) (a : α) : List α → List α
  | [] => [a]
  | b :: rest => if before a b then a :: b :: rest else b :: insertBy before a rest

/-- Sorts a list so that each element may stand before those after it. -/
def sortBy (before : α → α → Bool) (xs : List α) : List α := xs.foldr (insertBy before) []

/-- Putting an element in its place adds it and nothing else. -/
theorem insertBy_perm (before : α → α → Bool) (a : α) (xs : List α) :
    (insertBy before a xs).Perm (a :: xs) := by
  induction xs with
  | nil => exact List.Perm.refl _
  | cons b rest ih =>
    simp only [insertBy]
    split
    · exact List.Perm.refl _
    · exact (ih.cons b).trans (List.Perm.swap a b rest)

/-- Sorting neither adds nor loses an element. -/
theorem sortBy_perm (before : α → α → Bool) (xs : List α) : (sortBy before xs).Perm xs := by
  induction xs with
  | nil => exact List.Perm.refl _
  | cons a xs ih => exact (insertBy_perm before a _).trans (ih.cons a)

end PromptTemplate
