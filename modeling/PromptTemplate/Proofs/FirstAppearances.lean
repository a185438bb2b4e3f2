import Mathlib.Data.List.Induction

/-!
Lists in which each element stands once, at the place where it first appears. One more element at
the end is left out if it was there and stays otherwise (`eraseDups_concat`), so a run that puts
each element at the end unless it is there collects such a list (`foldl_concat_new`), and elements
that were all there before make no difference (`eraseDups_append_of_subset`).
-/

set_option autoImplicit false
set_option relaxedAutoImplicit false

namespace PromptTemplate

variable {α : Type} [BEq α] [LawfulBEq α]

/-- One more element is kept at the end unless it was there before. -/
theorem eraseDups_concat (xs : List α) (a : α) :
    (xs ++ [a]).eraseDups = if a ∈ xs then xs.eraseDups else xs.eraseDups ++ [a] := by
  have hnew : [a].removeAll xs = if a ∈ xs then [] else [a] := by
    simp only [List.removeAll, List.filter_cons, List.filter_nil, List.elem_eq_mem,
      Bool.not_eq_true', decide_eq_false_iff_not, ite_not]
  rw [List.eraseDups_append, hnew]
  split
  · rw [List.eraseDups_nil, List.append_nil]
  · rfl

/-- Putting each element at the end unless it is there leaves each at its first place. -/
theorem foldl_concat_new (xs : List α) :
    xs.foldl (fun seen a ↦ if seen.contains a then seen else seen ++ [a]) [] = xs.eraseDups := by
  induction xs using List.reverseRecOn with
  | nil => rfl
  | append_singleton xs a ih =>
    rw [List.foldl_append, ih, List.foldl_cons, List.foldl_nil, eraseDups_concat]
    simp only [List.contains_iff_mem, List.mem_eraseDups]

theorem eraseDups_append_of_subset {xs ys : List α} (h : ys ⊆ xs) :
    (xs ++ ys).eraseDups = xs.eraseDups := by
  have hnone : ys.removeAll xs = [] := List.filter_eq_nil_iff.mpr fun a ha ↦ by
    simp [h ha]
  rw [List.eraseDups_append, hnone, List.eraseDups_nil, List.append_nil]

end PromptTemplate
