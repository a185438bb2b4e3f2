import Mathlib.Data.List.Sort
import PromptTemplate.Ordering

/-!
Sorting puts every element behind those that may stand before it. `sortBy` is insertion sort, so
its results are those of the library about insertion sort. Elements that are left out before or
after sorting make no difference to the order of the others (`filter_sortBy`). Sorted by a number,
elements that are level keep the order they had (`stablySorted_sortBy`). Where no two elements are
level, an ordered list is determined by its elements (`eq_of_ordered`, `eq_of_ascending`), and the
order before sorting makes no difference (`sortBy_eq_of_perm`).
-/

set_option autoImplicit false
set_option relaxedAutoImplicit false

namespace PromptTemplate

variable {α : Type} {before : α → α → Bool}

theorem insertBy_eq_orderedInsert (a : α) (xs : List α) :
    insertBy before a xs = xs.orderedInsert (fun a b ↦ before a b = true) a := by
  induction xs with
  | nil => rfl
  | cons b xs ih => rw [insertBy, ih, List.orderedInsert_cons]

theorem sortBy_eq_insertionSort (xs : List α) :
    sortBy before xs = xs.insertionSort fun a b ↦ before a b = true := by
  induction xs with
  | nil => rfl
  | cons a xs ih =>
    rw [List.insertionSort_cons, ← ih, ← insertBy_eq_orderedInsert]
    rfl

theorem mem_sortBy {a : α} {xs : List α} : a ∈ sortBy before xs ↔ a ∈ xs :=
  (sortBy_perm before xs).mem_iff

/-- A sorted list is in order, if any two elements may stand in some order and the order is
transitive. -/
theorem pairwise_sortBy (htotal : ∀ a b, before a b = true ∨ before b a = true)
    (htrans : ∀ a b c, before a b = true → before b c = true → before a c = true) (xs : List α) :
    (sortBy before xs).Pairwise fun a b ↦ before a b = true := by
  have total : Std.Total fun a b ↦ before a b = true := ⟨htotal⟩
  have trans : IsTrans α fun a b ↦ before a b = true := ⟨htrans⟩
  rw [sortBy_eq_insertionSort]
  exact List.pairwise_insertionSort _ xs

theorem total_measure (measure : α → Nat) (a b : α) :
    decide (measure a ≤ measure b) = true ∨ decide (measure b ≤ measure a) = true := by
  simp only [decide_eq_true_eq]
  exact Nat.le_total _ _

theorem trans_measure (measure : α → Nat) (a b c : α)
    (hab : decide (measure a ≤ measure b) = true) (hbc : decide (measure b ≤ measure c) = true) :
    decide (measure a ≤ measure c) = true := by
  rw [decide_eq_true_eq] at hab hbc ⊢
  exact Nat.le_trans hab hbc

/-- Sorting by a number puts smaller numbers first. -/
theorem pairwise_sortBy_le (measure : α → Nat) (xs : List α) :
    (sortBy (fun a b ↦ measure a ≤ measure b) xs).Pairwise fun a b ↦ measure a ≤ measure b :=
  (pairwise_sortBy (total_measure measure) (trans_measure measure) xs).imp of_decide_eq_true

/-- Sorting by a number the other way puts larger numbers first. -/
theorem pairwise_sortBy_ge (measure : α → Nat) (xs : List α) :
    (sortBy (fun a b ↦ measure b ≤ measure a) xs).Pairwise fun a b ↦ measure b ≤ measure a :=
  (pairwise_sortBy (fun a b ↦ total_measure measure b a)
    (fun a b c hba hcb ↦ trans_measure measure c b a hcb hba) xs).imp of_decide_eq_true

/-! ### Sorting images -/

/-- Elements can be mapped before or after one of them is put in its place. -/
theorem insertBy_map {α β : Type} {before : β → β → Bool} (f : α → β) (a : α) (xs : List α) :
    insertBy before (f a) (xs.map f) =
      (insertBy (fun x y ↦ before (f x) (f y)) a xs).map f := by
  induction xs with
  | nil => rfl
  | cons b xs ih =>
    rw [List.map_cons, insertBy, insertBy]
    split
    · rfl
    · rw [ih, List.map_cons]

/-- Sorting images is sorting by what the images are compared by. -/
theorem sortBy_map {α β : Type} {before : β → β → Bool} (f : α → β) (xs : List α) :
    sortBy before (xs.map f) = (sortBy (fun x y ↦ before (f x) (f y)) xs).map f := by
  induction xs with
  | nil => rfl
  | cons a xs ih =>
    have hcons : ∀ {γ : Type} {before : γ → γ → Bool} (a : γ) (xs : List γ),
        sortBy before (a :: xs) = insertBy before a (sortBy before xs) := fun _ _ ↦ rfl
    rw [List.map_cons, hcons, hcons, ih, insertBy_map]

/-! ### Sorting some of the elements -/

theorem insertBy_of_forall {a : α} {xs : List α} (h : ∀ b ∈ xs, before a b = true) :
    insertBy before a xs = a :: xs := by
  cases xs with
  | nil => rfl
  | cons b xs => rw [insertBy, if_pos (h b List.mem_cons_self)]

theorem filter_insertBy_of_neg {p : α → Bool} {a : α} (ha : ¬ p a = true) (xs : List α) :
    (insertBy before a xs).filter p = xs.filter p := by
  induction xs with
  | nil => rw [insertBy, List.filter_cons_of_neg ha]
  | cons b xs ih =>
    rw [insertBy]
    split
    · rw [List.filter_cons_of_neg ha]
    · rw [List.filter_cons, List.filter_cons, ih]

/-- An element is put in the same place among some elements of a sorted list as among all. -/
theorem filter_insertBy_of_pos
    (htrans : ∀ a b c, before a b = true → before b c = true → before a c = true)
    {p : α → Bool} {a : α} (ha : p a = true) {xs : List α}
    (hxs : xs.Pairwise fun a b ↦ before a b = true) :
    (insertBy before a xs).filter p = insertBy before a (xs.filter p) := by
  induction xs with
  | nil => rw [insertBy, List.filter_cons_of_pos ha, List.filter_nil, insertBy]
  | cons b xs ih =>
    obtain ⟨hb, hrest⟩ := List.pairwise_cons.mp hxs
    rw [insertBy]
    by_cases hab : before a b = true
    · have hall : ∀ c ∈ b :: xs, before a c = true :=
        List.forall_mem_cons.mpr ⟨hab, fun c hc ↦ htrans a b c hab (hb c hc)⟩
      rw [if_pos hab, List.filter_cons_of_pos ha,
        insertBy_of_forall fun c hc ↦ hall c (List.mem_of_mem_filter hc)]
    · rw [if_neg hab]
      by_cases hpb : p b = true
      · rw [List.filter_cons_of_pos hpb, List.filter_cons_of_pos hpb, ih hrest, insertBy,
          if_neg hab]
      · rw [List.filter_cons_of_neg hpb, List.filter_cons_of_neg hpb, ih hrest]

/-- Sorting some elements of a list gives the same as leaving out the others after sorting. -/
theorem filter_sortBy (htotal : ∀ a b, before a b = true ∨ before b a = true)
    (htrans : ∀ a b c, before a b = true → before b c = true → before a c = true)
    (p : α → Bool) (xs : List α) :
    (sortBy before xs).filter p = sortBy before (xs.filter p) := by
  induction xs with
  | nil => rfl
  | cons a xs ih =>
    have hcons : ∀ ys, sortBy before (a :: ys) = insertBy before a (sortBy before ys) :=
      fun _ ↦ rfl
    by_cases ha : p a = true
    · rw [List.filter_cons_of_pos ha, hcons, hcons, ← ih]
      exact filter_insertBy_of_pos htrans ha (pairwise_sortBy htotal htrans xs)
    · rw [List.filter_cons_of_neg ha, hcons, ← ih]
      exact filter_insertBy_of_neg ha _

/-- Elements can be left out before or after sorting by a measure. -/
theorem filter_sortBy_le (measure : α → Nat) (p : α → Bool) (xs : List α) :
    (sortBy (fun a b ↦ measure a ≤ measure b) xs).filter p =
      sortBy (fun a b ↦ measure a ≤ measure b) (xs.filter p) :=
  filter_sortBy (total_measure measure) (trans_measure measure) p xs

theorem filter_sortBy_ge (measure : α → Nat) (p : α → Bool) (xs : List α) :
    (sortBy (fun a b ↦ measure b ≤ measure a) xs).filter p =
      sortBy (fun a b ↦ measure b ≤ measure a) (xs.filter p) :=
  filter_sortBy (fun a b ↦ total_measure measure b a)
    (fun a b c hba hcb ↦ trans_measure measure c b a hcb hba) p xs

/-! ### Elements that are level -/

/-- Whether a list has the elements of another one, smaller ones first, and those that are level in
the order they had. -/
structure StablySorted (measure : α → Nat) (xs sorted : List α) : Prop where
  perm : sorted.Perm xs
  ordered : sorted.Pairwise fun a b ↦ measure a ≤ measure b
  level : ∀ n, sorted.filter (measure · == n) = xs.filter (measure · == n)

/-- Elements that may stand before each other in any order keep the order they had. -/
theorem filter_level_sortBy (htotal : ∀ a b, before a b = true ∨ before b a = true)
    (htrans : ∀ a b c, before a b = true → before b c = true → before a c = true)
    {measure : α → Nat} (hlevel : ∀ a b, measure a = measure b → before a b = true) (n : Nat)
    (xs : List α) : (sortBy before xs).filter (measure · == n) = xs.filter (measure · == n) := by
  have hordered : (xs.filter (measure · == n)).Pairwise fun a b ↦ before a b = true := by
    refine List.pairwise_of_forall_mem_list fun a ha b hb ↦ hlevel a b ?_
    exact (beq_iff_eq.mp (List.mem_filter.mp ha).2).trans
      (beq_iff_eq.mp (List.mem_filter.mp hb).2).symm
  rw [filter_sortBy htotal htrans, sortBy_eq_insertionSort, hordered.insertionSort_eq]

/-- Sorting by a number leaves elements that are level in their order. -/
theorem stablySorted_sortBy (measure : α → Nat) (xs : List α) :
    StablySorted measure xs (sortBy (fun a b ↦ measure a ≤ measure b) xs) where
  perm := sortBy_perm _ xs
  ordered := pairwise_sortBy_le measure xs
  level n := filter_level_sortBy (total_measure measure) (trans_measure measure)
    (fun _ _ h ↦ decide_eq_true (Nat.le_of_eq h)) n xs

/-- Sorting by a number the other way leaves them in their order as well. -/
theorem filter_level_sortBy_ge (measure : α → Nat) (n : Nat) (xs : List α) :
    (sortBy (fun a b ↦ measure b ≤ measure a) xs).filter (measure · == n) =
      xs.filter (measure · == n) :=
  filter_level_sortBy (fun a b ↦ total_measure measure b a)
    (fun a b c hba hcb ↦ trans_measure measure c b a hcb hba)
    (fun _ _ h ↦ decide_eq_true (Nat.le_of_eq h.symm)) n xs

/-- Lists of the same elements that are ordered by a number are the same if no two of the elements
are level. -/
theorem eq_of_ordered (measure : α → Nat) {xs ys : List α} (hperm : xs.Perm ys)
    (hxs : xs.Pairwise fun a b ↦ measure a ≤ measure b)
    (hys : ys.Pairwise fun a b ↦ measure a ≤ measure b)
    (heq : ∀ a ∈ xs, ∀ b ∈ xs, measure a = measure b → a = b) : xs = ys :=
  hperm.eq_of_pairwise (fun a b ha hb hab hba ↦
    heq a ha b (hperm.mem_iff.mpr hb) (Nat.le_antisymm hab hba)) hxs hys

/-- Sorting forgets the order if no two elements have the same measure. -/
theorem sortBy_eq_of_perm (measure : α → Nat) {xs ys : List α} (hperm : xs.Perm ys)
    (heq : ∀ a ∈ xs, ∀ b ∈ xs, measure a = measure b → a = b) :
    sortBy (fun a b ↦ measure a ≤ measure b) xs = sortBy (fun a b ↦ measure a ≤ measure b) ys :=
  eq_of_ordered measure ((sortBy_perm _ _).trans (hperm.trans (sortBy_perm _ _).symm))
    (pairwise_sortBy_le measure xs) (pairwise_sortBy_le measure ys)
    fun a ha b hb ↦ heq a (mem_sortBy.mp ha) b (mem_sortBy.mp hb)

/-- Lists that ascend strictly by a number and have the same elements are the same. -/
theorem eq_of_ascending (measure : α → Nat) {xs ys : List α}
    (hxs : xs.Pairwise fun a b ↦ measure a < measure b)
    (hys : ys.Pairwise fun a b ↦ measure a < measure b) (h : ∀ a, a ∈ xs ↔ a ∈ ys) : xs = ys := by
  have irrefl : Std.Irrefl fun a b : α ↦ measure a < measure b :=
    ⟨fun a ↦ Nat.lt_irrefl (measure a)⟩
  have antisymm : Std.Antisymm fun a b : α ↦ measure a < measure b :=
    ⟨fun _ _ hab hba ↦ absurd hba (Nat.lt_asymm hab)⟩
  exact hxs.eq_of_mem_iff hys h

end PromptTemplate
