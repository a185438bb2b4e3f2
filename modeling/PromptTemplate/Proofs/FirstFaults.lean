import Mathlib.Data.List.Basic

/-!
Runs over a list that end at the first fault. A step for all elements succeeds if it does for each
of them (`mapM_eq_ok`, `exists_of_mapM_eq_ok`), and otherwise its fault is that of the first element
for which it fails (`mapM_eq_error_iff`, `mapM_ok_or_error`). A run that combines what the steps
yield on its way is one that combines it at the end (`foldlM_map`).
-/

set_option autoImplicit false
set_option relaxedAutoImplicit false

namespace PromptTemplate

variable {ε α β γ : Type} {f : α → Except ε β} {xs : List α}

/-- Steps that all succeed succeed together. -/
theorem mapM_eq_ok {g : α → β} (h : ∀ x ∈ xs, f x = .ok (g x)) : xs.mapM f = .ok (xs.map g) := by
  induction xs with
  | nil => rfl
  | cons x xs ih =>
    have hrest := ih fun y hy ↦ h y (List.mem_cons_of_mem _ hy)
    rw [List.mapM_cons, h x List.mem_cons_self, hrest]
    rfl

/-- If each step yields what another function finds, or fails in a known way, then all steps yield
what that function finds, or fail in the way of one of them. -/
theorem mapM_ok_or_error {g : α → Option β} {p : α → Prop} {q : α → ε → Prop}
    (h : ∀ x ∈ xs, (∃ y, f x = .ok y ∧ g x = some y ∧ p x) ∨ ∃ e, f x = .error e ∧ q x e) :
    (xs.mapM f = .ok (xs.filterMap g) ∧ ∀ x ∈ xs, p x) ∨
      ∃ x ∈ xs, ∃ e, xs.mapM f = .error e ∧ q x e := by
  induction xs with
  | nil => exact Or.inl ⟨rfl, nofun⟩
  | cons x xs ih =>
    obtain ⟨hx, hrest⟩ := List.forall_mem_cons.mp h
    rw [List.mapM_cons]
    rcases hx with ⟨y, hy, hg, hp⟩ | ⟨e, he, hq⟩
    · rcases ih hrest with ⟨hok, hall⟩ | ⟨x', hx', e, he, hq⟩
      · refine Or.inl ⟨?_, List.forall_mem_cons.mpr ⟨hp, hall⟩⟩
        rw [hy, hok, List.filterMap_cons_some hg]
        rfl
      · refine Or.inr ⟨x', List.mem_cons_of_mem x hx', e, ?_, hq⟩
        rw [hy, he]
        rfl
    · refine Or.inr ⟨x, List.mem_cons_self, e, ?_, hq⟩
      rw [he]
      rfl

/-- If what the steps yield beyond another function is left out later, the steps yield the same as
that function. -/
theorem exists_mapM_filter_eq {g : α → Option β} {p : β → Bool}
    (h : ∀ x ∈ xs, ∃ y, f x = .ok y ∧ (g x = some y ∨ g x = none ∧ p y = false)) :
    ∃ ys, xs.mapM f = .ok ys ∧ ys.filter p = (xs.filterMap g).filter p := by
  induction xs with
  | nil => exact ⟨[], rfl, rfl⟩
  | cons x xs ih =>
    obtain ⟨⟨y, hy, hg⟩, hrest⟩ := List.forall_mem_cons.mp h
    obtain ⟨ys, hys, hfilter⟩ := ih hrest
    refine ⟨y :: ys, ?_, ?_⟩
    · rw [List.mapM_cons, hy, hys]
      rfl
    · rcases hg with hsome | ⟨hnone, hp⟩
      · rw [List.filterMap_cons_some hsome, List.filter_cons, List.filter_cons, hfilter]
      · rw [List.filterMap_cons_none hnone, List.filter_cons_of_neg (by simp [hp]), hfilter]

theorem exists_of_mapM_eq_ok {ys : List β} (h : xs.mapM f = .ok ys) :
    ∀ x ∈ xs, ∃ y, f x = .ok y := by
  induction xs generalizing ys with
  | nil => nofun
  | cons x xs ih =>
    rw [List.mapM_cons] at h
    cases hx : f x with
    | error e =>
      rw [hx] at h
      cases h
    | ok y =>
      cases hxs : xs.mapM f with
      | error e =>
        rw [hx, hxs] at h
        cases h
      | ok ys => exact List.forall_mem_cons.mpr ⟨⟨y, hx⟩, ih hxs⟩

/-- The first element with a property is the head, or one has to look among the others. -/
theorem exists_first_cons_iff {p q : α → Prop} {x : α} :
    (∃ before x' after, x :: xs = before ++ x' :: after ∧ (∀ y ∈ before, p y) ∧ q x') ↔
      q x ∨ p x ∧ ∃ before x' after, xs = before ++ x' :: after ∧ (∀ y ∈ before, p y) ∧ q x' := by
  constructor
  · rintro ⟨before, x', after, hcut, hbefore, hx'⟩
    cases before with
    | nil =>
      obtain ⟨rfl, -⟩ := List.cons.inj hcut
      exact Or.inl hx'
    | cons y before =>
      obtain ⟨rfl, rfl⟩ := List.cons.inj hcut
      obtain ⟨hx, hbefore⟩ := List.forall_mem_cons.mp hbefore
      exact Or.inr ⟨hx, before, x', after, rfl, hbefore, hx'⟩
  · rintro (hx | ⟨hx, before, x', after, rfl, hbefore, hx'⟩)
    · exact ⟨[], x, xs, rfl, nofun, hx⟩
    · exact ⟨x :: before, x', after, rfl, List.forall_mem_cons.mpr ⟨hx, hbefore⟩, hx'⟩

/-- The fault of a run is that of the first element for which the step fails. -/
theorem mapM_eq_error_iff {e : ε} : xs.mapM f = .error e ↔ ∃ before x after,
    xs = before ++ x :: after ∧ (∀ y ∈ before, ∃ z, f y = .ok z) ∧ f x = .error e := by
  induction xs with
  | nil => simp [pure, Except.pure]
  | cons x xs ih =>
    rw [exists_first_cons_iff, ← ih, List.mapM_cons]
    cases f x with
    | error e' => simp [bind, Except.bind]
    | ok y => cases xs.mapM f <;> simp [bind, Except.bind, pure, Except.pure]

/-- What the steps yield can be combined on the way or at the end. -/
theorem foldlM_map (f : α → Except ε β) (combine : γ → β → γ) (xs : List α) (start : γ) :
    xs.foldlM (fun c x ↦ (f x).map (combine c)) start =
      (xs.mapM f).map fun ys ↦ ys.foldl combine start := by
  induction xs generalizing start with
  | nil => rfl
  | cons x xs ih =>
    rw [List.foldlM_cons, List.mapM_cons]
    cases f x with
    | error e => rfl
    | ok y =>
      change xs.foldlM _ (combine start y) = _
      rw [ih]
      cases xs.mapM f <;> rfl

end PromptTemplate
