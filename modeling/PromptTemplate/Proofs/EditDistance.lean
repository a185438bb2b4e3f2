import Mathlib.Data.List.Basic
import Mathlib.Order.Lattice.Nat
import PromptTemplate.Text.Distance

/-!
The edit distance is the least number of edits that turn one text into the other (`EditsIn`). The
recursion `editDistanceBy` changes by one at most with an edit of its first text, so fewer edits do
not reach the other text (`editDistanceBy_le`), and its own choices are edits that do
(`editsIn_editDistanceBy`). The rows that are computed in place of it are its values on the prefixes
of both texts, read backwards (`editDistance_eq`), which makes no difference because edits can be
read backwards too (`isLeast_editDistance`).
-/

set_option autoImplicit false
set_option relaxedAutoImplicit false

namespace PromptTemplate.Text

/-! ### Edits -/

/-- An edit of a single character. -/
inductive CharacterEdit : Text → Text → Prop
  | insert (before : Text) (c : Char) (after : Text) :
      CharacterEdit (before ++ after) (before ++ c :: after)
  | delete (before : Text) (c : Char) (after : Text) :
      CharacterEdit (before ++ c :: after) (before ++ after)
  | replace (before : Text) (c d : Char) (after : Text) :
      CharacterEdit (before ++ c :: after) (before ++ d :: after)

/-- Whether a number of edits turn one text into another. -/
inductive EditsIn : Nat → Text → Text → Prop
  | none (s : Text) : EditsIn 0 s s
  | more {n : Nat} {s t u : Text} (first : CharacterEdit s t) (rest : EditsIn n t u) :
      EditsIn (n + 1) s u

/-- The least number of edits that turn one text into another. -/
noncomputable def leastEdits (s t : Text) : Nat := sInf {n | EditsIn n s t}

variable {s t u : Text} {n : Nat}

theorem CharacterEdit.cons (c : Char) (h : CharacterEdit s t) :
    CharacterEdit (c :: s) (c :: t) := by
  cases h with
  | insert before d after => exact .insert (c :: before) d after
  | delete before d after => exact .delete (c :: before) d after
  | replace before d e after => exact .replace (c :: before) d e after

/-- Edits can be made behind a common first character. -/
theorem EditsIn.cons (c : Char) (h : EditsIn n s t) : EditsIn n (c :: s) (c :: t) := by
  induction h with
  | none s => exact .none (c :: s)
  | more first _ ih => exact .more (first.cons c) ih

theorem CharacterEdit.reverse (h : CharacterEdit s t) : CharacterEdit s.reverse t.reverse := by
  cases h with
  | insert before c after => simpa using CharacterEdit.insert after.reverse c before.reverse
  | delete before c after => simpa using CharacterEdit.delete after.reverse c before.reverse
  | replace before c d after => simpa using CharacterEdit.replace after.reverse c d before.reverse

/-- Edits can be made from the other end as well. -/
theorem EditsIn.reverse (h : EditsIn n s t) : EditsIn n s.reverse t.reverse := by
  induction h with
  | none s => exact .none s.reverse
  | more first _ ih => exact .more first.reverse ih

/-! ### The recursion -/

theorem editDistanceBy_nil_left (t : Text) : editDistanceBy [] t = t.length := by
  rw [editDistanceBy]

theorem editDistanceBy_nil_right (s : Text) : editDistanceBy s [] = s.length := by
  cases s with
  | nil => rw [editDistanceBy_nil_left]
  | cons c s =>
    rw [editDistanceBy]
    exact List.cons_ne_nil c s

/-- The recursion of the edit distance: the first characters are matched or replaced, or one of them
is left out. -/
theorem editDistanceBy_cons_cons (c d : Char) (s t : Text) :
    editDistanceBy (c :: s) (d :: t) = min (editDistanceBy s t + if c = d then 0 else 1)
      (min (editDistanceBy s (d :: t)) (editDistanceBy (c :: s) t) + 1) := by
  rw [editDistanceBy]

theorem editDistanceBy_self (s : Text) : editDistanceBy s s = 0 := by
  induction s with
  | nil => exact editDistanceBy_nil_left []
  | cons c s ih => simp [editDistanceBy_cons_cons, ih]

/-- A text that is at most one edit further from all texts stays so behind a common character. -/
theorem editDistanceBy_cons_le (h : ∀ u, editDistanceBy s u ≤ editDistanceBy t u + 1) (c : Char)
    (u : Text) : editDistanceBy (c :: s) u ≤ editDistanceBy (c :: t) u + 1 := by
  induction u with
  | nil =>
    have hlength := h []
    simp only [editDistanceBy_nil_right, List.length_cons] at hlength ⊢
    omega
  | cons d u ih =>
    have htail := h u
    have hwhole := h (d :: u)
    simp only [editDistanceBy_cons_cons]
    omega

/-- What is at most one edit further away stays so behind a common beginning. -/
theorem editDistanceBy_append_le (h : ∀ u, editDistanceBy s u ≤ editDistanceBy t u + 1)
    (before u : Text) :
    editDistanceBy (before ++ s) u ≤ editDistanceBy (before ++ t) u + 1 := by
  induction before generalizing u with
  | nil => exact h u
  | cons c before ih => exact editDistanceBy_cons_le ih c u

/-- A text without its first character is at most one edit further away from another one. Only where
a character of the other text is inserted does that character stay in front, so the induction is on
the other text. -/
theorem editDistanceBy_insert_le (s : Text) (c : Char) (u : Text) :
    editDistanceBy s u ≤ editDistanceBy (c :: s) u + 1 := by
  induction u with
  | nil =>
    rw [editDistanceBy_nil_right, editDistanceBy_nil_right, List.length_cons]
    omega
  | cons d u ih =>
    have hshorter : editDistanceBy s (d :: u) ≤ editDistanceBy s u + 1 := by
      cases s with
      | nil => simp only [editDistanceBy_nil_left, List.length_cons, Nat.le_refl]
      | cons e s =>
        rw [editDistanceBy_cons_cons]
        omega
    simp only [editDistanceBy_cons_cons]
    omega

theorem editDistanceBy_delete_le (s : Text) (c : Char) (u : Text) :
    editDistanceBy (c :: s) u ≤ editDistanceBy s u + 1 := by
  cases u with
  | nil => rw [editDistanceBy_nil_right, editDistanceBy_nil_right, List.length_cons]
  | cons d u =>
    rw [editDistanceBy_cons_cons]
    omega

theorem editDistanceBy_replace_le (s : Text) (c d : Char) (u : Text) :
    editDistanceBy (c :: s) u ≤ editDistanceBy (d :: s) u + 1 := by
  induction u with
  | nil => simp only [editDistanceBy_nil_right, List.length_cons, Nat.le_succ]
  | cons e u ih =>
    simp only [editDistanceBy_cons_cons]
    split <;> split <;> omega

/-- An edit of the first text changes the distance by one at most. -/
theorem editDistanceBy_le_of_edit (h : CharacterEdit s t) (u : Text) :
    editDistanceBy s u ≤ editDistanceBy t u + 1 := by
  cases h with
  | insert before c after =>
    exact editDistanceBy_append_le (editDistanceBy_insert_le after c) before u
  | delete before c after =>
    exact editDistanceBy_append_le (editDistanceBy_delete_le after c) before u
  | replace before c d after =>
    exact editDistanceBy_append_le (editDistanceBy_replace_le after c d) before u

/-- No fewer edits than the distance turn one text into the other. -/
theorem editDistanceBy_le (h : EditsIn n s t) : editDistanceBy s t ≤ n := by
  induction h with
  | none s => exact Nat.le_of_eq (editDistanceBy_self s)
  | @more n s t u first rest ih =>
    calc editDistanceBy s u ≤ editDistanceBy t u + 1 := editDistanceBy_le_of_edit first u
      _ ≤ n + 1 := Nat.succ_le_succ ih

theorem editsIn_length_left (t : Text) : EditsIn t.length [] t := by
  induction t with
  | nil => exact .none []
  | cons c t ih => exact .more (.insert [] c []) (ih.cons c)

theorem editsIn_length_right (s : Text) : EditsIn s.length s [] := by
  induction s with
  | nil => exact .none []
  | cons c s ih => exact .more (.delete [] c s) ih

/-- As many edits as the distance turn one text into the other. -/
theorem editsIn_editDistanceBy (s t : Text) : EditsIn (editDistanceBy s t) s t := by
  fun_induction editDistanceBy s t with
  | case1 t => exact editsIn_length_left t
  | case2 s => exact editsIn_length_right s
  | case3 c s d t hkept hdeleted hinserted =>
    have hreplace : EditsIn (editDistanceBy s t + if c = d then 0 else 1) (c :: s) (d :: t) := by
      by_cases h : c = d
      · subst h
        simpa using hkept.cons c
      · rw [if_neg h]
        exact .more (.replace [] c d s) (hkept.cons d)
    have hdelete : EditsIn (editDistanceBy s (d :: t) + 1) (c :: s) (d :: t) :=
      .more (.delete [] c s) hdeleted
    have hinsert : EditsIn (editDistanceBy (c :: s) t + 1) (c :: s) (d :: t) :=
      .more (.insert [] d (c :: s)) (hinserted.cons d)
    rw [← Nat.add_min_add_right]
    exact min_rec' (EditsIn · (c :: s) (d :: t)) hreplace
      (min_rec' (EditsIn · (c :: s) (d :: t)) hdelete hinsert)

/-! ### The rows -/

/-- The distances of a text from the prefixes of another text that are longer than a given one, all
of them read backwards. -/
def distancesAfter (s before : Text) : Text → List Nat
  | [] => []
  | d :: t => editDistanceBy s (d :: before) :: distancesAfter s (d :: before) t

theorem distancesAfter_nil (before t : Text) :
    distancesAfter [] before t = List.range' (before.length + 1) t.length := by
  induction t generalizing before with
  | nil => rfl
  | cons d t ih =>
    rw [distancesAfter, ih, editDistanceBy_nil_left, List.length_cons, List.length_cons,
      List.range'_succ]

/-- A row is computed from the row of the text without its first character. -/
theorem nextRow_distancesAfter (c : Char) (s before t : Text) :
    nextRow c (editDistanceBy s before) (editDistanceBy (c :: s) before) t
      (distancesAfter s before t) = distancesAfter (c :: s) before t := by
  induction t generalizing before with
  | nil => rfl
  | cons d t ih =>
    rw [distancesAfter, distancesAfter, nextRow, ← editDistanceBy_cons_cons, ih]

/-- The last number of a row is the distance to the whole text. -/
theorem getLastD_distancesAfter (s before t : Text) (default : Nat) :
    (editDistanceBy s before :: distancesAfter s before t).getLastD default =
      editDistanceBy s (t.reverse ++ before) := by
  induction t generalizing before default with
  | nil => rfl
  | cons d t ih =>
    rw [distancesAfter, List.getLastD_cons, ih, List.reverse_cons, List.append_assoc]
    rfl

/-- The distances of a text from all prefixes of another text, read backwards. -/
def distances (s t : Text) : List Nat := editDistanceBy s [] :: distancesAfter s [] t

theorem distances_nil (t : Text) : distances [] t = List.range (t.length + 1) := by
  rw [distances, distancesAfter_nil, editDistanceBy_nil_left, List.range_eq_range',
    List.range'_succ]
  rfl

/-- Steps that lead from each row to the next one lead to the row of the whole text. -/
theorem foldl_distances {t : Text} {step : List Nat → Char → List Nat}
    (hstep : ∀ s c, step (distances s t) c = distances (c :: s) t) (s before : Text) :
    s.foldl step (distances before t) = distances (s.reverse ++ before) t := by
  induction s generalizing before with
  | nil => rfl
  | cons c s ih =>
    rw [List.foldl_cons, hstep, ih, List.reverse_cons, List.append_assoc]
    rfl

/-- The rows compute the recursion on the texts read backwards. -/
theorem editDistance_eq (s t : Text) : editDistance s t = editDistanceBy s.reverse t.reverse := by
  have hlast : editDistance s t = (distances (s.reverse ++ []) t).getLastD 0 := by
    rw [editDistance, ← distances_nil]
    refine congrArg (List.getLastD · 0) (foldl_distances (fun before c ↦ ?_) s [])
    have hcorner : editDistanceBy before [] + 1 = editDistanceBy (c :: before) [] := by
      simp only [editDistanceBy_nil_right, List.length_cons]
    rw [distances, distances]
    dsimp only
    rw [hcorner, nextRow_distancesAfter]
  rw [hlast, distances, getLastD_distancesAfter, List.append_nil, List.append_nil]

/-- The edit distance is the least number of edits that turn one text into the other. -/
theorem isLeast_editDistance (s t : Text) : IsLeast {n | EditsIn n s t} (editDistance s t) := by
  rw [editDistance_eq]
  constructor
  · simpa using (editsIn_editDistanceBy s.reverse t.reverse).reverse
  · exact fun n h ↦ editDistanceBy_le h.reverse

/-- The least number of edits is the computed distance. -/
theorem leastEdits_eq (s t : Text) : leastEdits s t = editDistance s t :=
  (isLeast_editDistance s t).csInf_eq

end PromptTemplate.Text
