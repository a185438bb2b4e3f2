import PromptTemplate.Proofs.Findings

/-!
The findings at one place. The findings of a text are in the order of their places, so those at one
place are those of its four lists, one list after the other (`findingsAt_eq`). A list that is made
from things one by one has at a place what is made from the one thing that stands there
(`filter_filterMap_of_mem`), and nothing if none does.
-/

set_option autoImplicit false
set_option relaxedAutoImplicit false

namespace PromptTemplate

section Lists

variable {α β : Type} {g : α → Option β} {p : β → Bool} {xs : List α}

theorem filter_filterMap_eq_nil (h : ∀ a ∈ xs, ∀ b, g a = some b → p b = false) :
    (xs.filterMap g).filter p = [] := by
  refine List.filter_eq_nil_iff.mpr fun b hb ↦ ?_
  obtain ⟨a, ha, hab⟩ := List.mem_filterMap.mp hb
  rw [h a ha b hab]
  exact Bool.false_ne_true

/-- Where only what is made from one element is let through, what is left is made from it. -/
theorem filter_filterMap_of_mem (hxs : xs.Nodup) {a : α} (ha : a ∈ xs)
    (hself : ∀ b, g a = some b → p b = true)
    (hother : ∀ a' ∈ xs, a' ≠ a → ∀ b, g a' = some b → p b = false) :
    (xs.filterMap g).filter p = (g a).toList := by
  obtain ⟨front, behind, rfl⟩ := List.append_of_mem ha
  obtain ⟨-, hbehind, hfront⟩ := List.nodup_append.mp hxs
  have hnotBehind := (List.nodup_cons.mp hbehind).1
  have hfront : (front.filterMap g).filter p = [] :=
    filter_filterMap_eq_nil fun a' ha' ↦
      hother a' (List.mem_append_left _ ha') (hfront a' ha' a List.mem_cons_self)
  have hbehind : (behind.filterMap g).filter p = [] :=
    filter_filterMap_eq_nil fun a' ha' ↦
      hother a' (List.mem_append_right _ (List.mem_cons_of_mem _ ha'))
        (ne_of_mem_of_not_mem ha' hnotBehind)
  rw [List.filterMap_append, List.filter_append, hfront, List.nil_append]
  cases hga : g a with
  | none => rw [List.filterMap_cons_none hga, hbehind, Option.toList_none]
  | some b =>
    rw [List.filterMap_cons_some hga, List.filter_cons_of_pos (hself b hga), hbehind,
      Option.toList_some]

end Lists

namespace Diagnostic

/-- The findings at a place, in the order in which they are listed. -/
def findingsAt (t : Text) (s : Span) : List Diagnostic := (ofText t).filter (·.span == s)

/-- The findings at a place are those of the four lists. -/
theorem findingsAt_eq (t : Text) (s : Span) : findingsAt t s =
    (openingTags t).filter (·.span == s) ++ (closingTags t).filter (·.span == s) ++
      (unknownKinds t).filter (·.span == s) ++ (redeclarations t).filter (·.span == s) := by
  have hlevel : ∀ fs : List Diagnostic,
      fs.filter (·.span == s) = (fs.filter (·.span.start == s.start)).filter (·.span == s) := by
    intro fs
    rw [List.filter_filter]
    refine List.filter_congr fun f _ ↦ ?_
    by_cases hspan : f.span = s
    · rw [hspan, beq_self_eq_true, beq_self_eq_true, Bool.and_self]
    · rw [beq_eq_false_iff_ne.mpr hspan, Bool.false_and]
  have hsorted := (stablySorted_sortBy (fun f : Diagnostic ↦ f.span.start)
    (openingTags t ++ closingTags t ++ unknownKinds t ++ redeclarations t)).level s.start
  rw [findingsAt, hlevel, ofText, hsorted, ← hlevel, List.filter_append, List.filter_append,
    List.filter_append]

end Diagnostic

end PromptTemplate
