import Mathlib.Data.List.TakeWhile
import PromptTemplate.Text.Blank
import PromptTemplate.Proofs.TextCuts

/-!
A text in parts between separators. The parts hold no separator, trimmed or not, and a text that is
joined from such parts is cut into them again (`splitOn_join`). What is dropped from the end of a
list because it is all the same can be put back (`exists_eq_append_replicate`).
-/

set_option autoImplicit false
set_option relaxedAutoImplicit false

namespace PromptTemplate

/-! ### The end of a list -/

section Trailing

variable {α : Type} (p : α → Bool) (xs : List α)

/-- Elements that are dropped from the end are a run of one element, if no other one is dropped. -/
theorem exists_eq_append_replicate {a : α} (hp : ∀ b, p b = true → b = a) :
    ∃ n, xs = (xs.reverse.dropWhile p).reverse ++ List.replicate n a := by
  have hrun : xs.reverse.takeWhile p = List.replicate (xs.reverse.takeWhile p).length a :=
    List.eq_replicate_of_mem fun b hb ↦ hp b (List.all_eq_true.mp List.all_takeWhile b hb)
  have hreverse := List.takeWhile_append_dropWhile (p := p) (l := xs.reverse)
  rw [hrun] at hreverse
  have hxs := congrArg List.reverse hreverse
  rw [List.reverse_append, List.reverse_reverse, List.reverse_replicate] at hxs
  exact ⟨_, hxs.symm⟩

theorem eq_false_of_mem_getLast?_reverse_dropWhile {b : α}
    (hb : (xs.reverse.dropWhile p).reverse.getLast? = some b) : p b = false := by
  rw [List.getLast?_reverse] at hb
  have hnot := List.head?_dropWhile_not p xs.reverse
  rw [hb] at hnot
  exact hnot

end Trailing

namespace Text

theorem not_mem_of_mem_splitOn {c : Char} {t part : Text} (h : part ∈ t.splitOn c) :
    c ∉ part := by
  induction t generalizing part with
  | nil =>
    obtain rfl : part = [] := by simpa using h
    exact List.not_mem_nil
  | cons d t ih =>
    rw [List.splitOn_cons_eq_if_modifyHead] at h
    split at h
    · rcases List.mem_cons.mp h with rfl | h
      · exact List.not_mem_nil
      · exact ih h
    · rename_i hdc
      obtain ⟨first, more, hparts⟩ := List.exists_cons_of_ne_nil (List.splitOn_ne_nil c t)
      rw [hparts, List.modifyHead_cons] at h
      rw [hparts] at ih
      rcases List.mem_cons.mp h with rfl | h
      · have hcd : c ≠ d := fun heq ↦ hdc (beq_iff_eq.mpr heq.symm)
        exact List.not_mem_cons_of_ne_of_not_mem hcd (ih List.mem_cons_self)
      · exact ih (List.mem_cons_of_mem _ h)

theorem mem_of_mem_trim {c : Char} {t : Text} (h : c ∈ trim t) : c ∈ t := by
  have hright : c ∈ (trimLeft t).reverse :=
    List.dropWhile_subset _ (List.mem_reverse.mp h)
  exact List.dropWhile_subset _ (List.mem_reverse.mp hright)

/-- Trimmed parts hold no separator either. -/
theorem not_mem_of_mem_map_trim_splitOn {c : Char} {t part : Text}
    (h : part ∈ (t.splitOn c).map trim) : c ∉ part := by
  obtain ⟨written, hwritten, rfl⟩ := List.mem_map.mp h
  exact fun hc ↦ not_mem_of_mem_splitOn hwritten (mem_of_mem_trim hc)

/-- What precedes the first separator. -/
theorem takeWhile_bne_append {c : Char} {t : Text} (h : c ∉ t) (rest : Text) :
    (t ++ c :: rest).takeWhile (· != c) = t :=
  (takeWhile_dropWhile_append (fun _ hd ↦ bne_iff_ne.mpr (ne_of_mem_of_not_mem hd h))
    (bne_self_eq_false c) rest).1

theorem takeWhile_bne_eq_self {c : Char} {t : Text} (h : c ∉ t) :
    t.takeWhile (· != c) = t :=
  List.takeWhile_eq_self_iff.mpr fun _ hd ↦ bne_iff_ne.mpr (ne_of_mem_of_not_mem hd h)

theorem join_eq_intercalate (separator : Text) (parts : List Text) :
    join separator parts = separator.intercalate parts := by
  match parts with
  | [] => rfl
  | [part] => rw [join, List.intercalate_singleton]
  | part :: next :: more =>
    rw [join, join_eq_intercalate separator (next :: more), List.intercalate_cons_cons]
    exact List.cons_ne_nil _ _

/-- Joined parts are split again. -/
theorem splitOn_join {c : Char} {parts : List Text} (h : ∀ part ∈ parts, c ∉ part)
    (hparts : parts ≠ []) : (join [c] parts).splitOn c = parts := by
  rw [join_eq_intercalate, List.splitOn_intercalate c h hparts]

theorem splitOn_replicate (c : Char) (n : Nat) :
    (List.replicate n c).splitOn c = List.replicate (n + 1) [] := by
  induction n with
  | zero => rfl
  | succ n ih =>
    rw [List.replicate_succ, List.splitOn_cons_eq_if_modifyHead, if_pos (beq_self_eq_true c), ih]
    rfl

/-- Separators at the end stand before empty parts. -/
theorem splitOn_append_replicate (c : Char) (t : Text) (n : Nat) :
    (t ++ List.replicate n c).splitOn c = t.splitOn c ++ List.replicate n [] := by
  cases n with
  | zero => rw [List.replicate_zero, List.append_nil, List.replicate_zero, List.append_nil]
  | succ n => rw [List.replicate_succ, List.splitOn_append_cons_self, splitOn_replicate]

end Text

end PromptTemplate
