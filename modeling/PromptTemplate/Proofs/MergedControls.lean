import Mathlib.Data.List.Induction
import PromptTemplate.Proofs.DistinctControls
import PromptTemplate.Proofs.FirstAppearances

/-!
Merging declarations without loss. Collapsing can be done one declaration after the other: a control
that was seen gets the places of the new declaration, and one that was not goes to the end with its
own places (`collapse_concat`). So the collapsed keys are the keys of the list, each once and in the
order in which they appear (`map_key_collapse`). The places of a control are then sorted, and since
the order of spans is strict, leaving out repetitions makes them ascend (`pairwise_spanSet`).

For any declarations, with any spans and whether or not they list their places, `distinct` has the
first declaration of each control with the ascending places of all declarations of it
(`mergedFrom_distinct`), where first means first when all of them are sorted stably by their start
(`stablySorted_and_mergedFrom_distinct`).
-/

set_option autoImplicit false
set_option relaxedAutoImplicit false

namespace PromptTemplate

/-! ### The order of spans -/

namespace Span

theorem lt_iff {r s : Span} :
    r.lt s = true ↔ r.start < s.start ∨ r.start = s.start ∧ r.stop < s.stop := by
  simp only [lt, Bool.or_eq_true, Bool.and_eq_true, decide_eq_true_eq, beq_iff_eq]

theorem lt_trans {r s u : Span} (hrs : r.lt s = true) (hsu : s.lt u = true) : r.lt u = true := by
  rw [lt_iff] at hrs hsu ⊢
  omega

/-- Spans that are not in one order are the same or in the other one. -/
theorem eq_or_lt_of_not_lt {r s : Span} (h : ¬ s.lt r = true) : r = s ∨ r.lt s = true := by
  obtain ⟨start, stop⟩ := r
  obtain ⟨start', stop'⟩ := s
  rw [lt_iff] at h ⊢
  simp only [Span.mk.injEq]
  dsimp only at h ⊢
  omega

theorem not_lt_trans {r s u : Span} (hrs : ¬ s.lt r = true) (hsu : ¬ u.lt s = true) :
    ¬ u.lt r = true := by
  rw [lt_iff] at hrs hsu ⊢
  omega

theorem not_lt_self (s : Span) : ¬ s.lt s = true := by
  rw [lt_iff]
  omega

theorem not_lt_of_lt {r s : Span} (h : r.lt s = true) : ¬ s.lt r = true := fun h' ↦
  not_lt_self r (lt_trans h h')

instance irrefl_lt : Std.Irrefl fun r s : Span ↦ r.lt s = true := ⟨not_lt_self⟩

instance antisymm_lt : Std.Antisymm fun r s : Span ↦ r.lt s = true :=
  ⟨fun _ _ hrs hsr ↦ absurd hsr (not_lt_of_lt hrs)⟩

end Span

namespace Declaration

theorem pairwise_sortBy_lt (spans : List Span) :
    (sortBy (fun a b : Span ↦ !b.lt a) spans).Pairwise fun r s ↦ ¬ s.lt r = true := by
  have htotal : ∀ r s : Span, (!s.lt r) = true ∨ (!r.lt s) = true := by
    intro r s
    rw [Bool.not_eq_true', Bool.not_eq_true', ← Bool.not_eq_true, ← Bool.not_eq_true]
    exact Classical.or_iff_not_imp_left.mpr fun h ↦ Span.not_lt_of_lt (not_not.mp h)
  have htrans : ∀ r s u : Span, (!s.lt r) = true → (!u.lt s) = true → (!u.lt r) = true := by
    intro r s u
    simp only [Bool.not_eq_true', ← Bool.not_eq_true]
    exact Span.not_lt_trans
  refine (pairwise_sortBy htotal htrans spans).imp fun h ↦ ?_
  rwa [Bool.not_eq_true', ← Bool.not_eq_true] at h

/-- Leaving out what repeats the one before it makes sorted spans ascend. -/
theorem pairwise_dropRepeats {spans : List Span} (h : spans.Pairwise fun r s ↦ ¬ s.lt r = true) :
    (dropRepeats spans).Pairwise fun r s ↦ r.lt s = true := by
  induction spans with
  | nil => exact List.Pairwise.nil
  | cons s rest ih =>
    obtain ⟨hhead, hrest⟩ := List.pairwise_cons.mp h
    have hlater : ∀ r ∈ dropRepeats rest, ¬ r.lt s = true := fun r hr ↦
      hhead r (mem_dropRepeats.mp hr)
    have hascend := ih hrest
    rw [dropRepeats]
    split
    · exact List.pairwise_singleton _ _
    · rename_i r' rest' hcons
      rw [hcons] at hlater hascend
      split
      · exact hascend
      · rename_i hne
        have hlt : s.lt r' = true :=
          (Span.eq_or_lt_of_not_lt (hlater r' List.mem_cons_self)).resolve_left hne
        refine List.pairwise_cons.mpr ⟨fun r hr ↦ ?_, hascend⟩
        rcases List.mem_cons.mp hr with rfl | hr
        · exact hlt
        · exact Span.lt_trans hlt ((List.pairwise_cons.mp hascend).1 r hr)

/-- The places of a distinct control ascend by start and then by end. -/
theorem pairwise_spanSet (spans : List Span) :
    (spanSet spans).Pairwise fun r s ↦ r.lt s = true :=
  pairwise_dropRepeats (pairwise_sortBy_lt spans)

/-! ### Collapsing one declaration after the other -/

/-- Takes one more declaration into collapsed ones. -/
def absorb (merged : List Declaration) (d : Declaration) : List Declaration :=
  if merged.any (sameControl d) then
    merged.map fun c ↦
      { c with occurrences := if sameControl d c then c.occurrences ++ d.spans else c.occurrences }
  else merged ++ [{ d with occurrences := d.spans }]

theorem any_sameControl_iff {d : Declaration} {ds : List Declaration} :
    ds.any (sameControl d) = true ↔ d.key ∈ ds.map key := by
  rw [List.any_eq_true, List.mem_map]
  exact exists_congr fun e ↦ and_congr_right fun _ ↦ sameControl_iff.trans eq_comm

/-- One more declaration is the first of its control unless there is one before it. -/
theorem firsts_concat (ds : List Declaration) (d : Declaration) :
    firsts (ds ++ [d]) = if ds.any (sameControl d) then firsts ds else firsts ds ++ [d] := by
  induction ds with
  | nil => rfl
  | cons e ds ih =>
    rw [List.cons_append, firsts, firsts, ih, List.any_cons]
    by_cases hed : d.key = e.key
    · have hsame : sameControl d e = true := sameControl_iff.mpr hed
      have hsymm : sameControl e d = true := sameControl_iff.mpr hed.symm
      rw [hsame, Bool.true_or, if_pos rfl]
      split
      · rfl
      · simp only [List.filter_append, List.filter_cons, hsymm, Bool.not_true, List.filter_nil,
          Bool.false_eq_true, if_false, List.append_nil]
    · have hne : sameControl d e = false := sameControl_eq_false_iff.mpr hed
      have hne' : sameControl e d = false := sameControl_eq_false_iff.mpr (Ne.symm hed)
      rw [hne, Bool.false_or]
      split
      · rfl
      · simp only [List.filter_append, List.filter_cons, hne', Bool.not_false, List.filter_nil,
          if_true, List.cons_append]

/-- Collapsing neither adds nor loses a control. -/
theorem key_mem_collapse_iff {k : Kind × Text} {ds : List Declaration} :
    k ∈ (collapse ds).map key ↔ k ∈ ds.map key := by
  constructor
  · intro hk
    obtain ⟨c, hc, rfl⟩ := List.mem_map.mp hk
    obtain ⟨own, hown, rfl⟩ := mem_collapse_iff.mp hc
    exact List.mem_map.mpr ⟨own, List.mem_of_find?_eq_some hown, rfl⟩
  · intro hk
    obtain ⟨d, hd, rfl⟩ := List.mem_map.mp hk
    exact List.mem_map.mpr (exists_mem_collapse hd)

/-- A declaration behind others is taken into what they collapse to. -/
theorem collapse_concat (ds : List Declaration) (d : Declaration) :
    collapse (ds ++ [d]) = absorb (collapse ds) d := by
  have hany : (collapse ds).any (sameControl d) = ds.any (sameControl d) := by
    rw [Bool.eq_iff_iff, any_sameControl_iff, any_sameControl_iff, key_mem_collapse_iff]
  have hplaces : ∀ c : Declaration, ((ds ++ [d]).filter (sameControl c)).flatMap spans =
      if sameControl d c then (ds.filter (sameControl c)).flatMap spans ++ d.spans
        else (ds.filter (sameControl c)).flatMap spans := by
    intro c
    have hsymm : sameControl d c = sameControl c d := Bool.beq_comm
    rw [List.filter_append, List.flatMap_append, hsymm, List.filter_cons, List.filter_nil]
    split
    · rw [List.flatMap_singleton]
    · rw [List.flatMap_nil, List.append_nil]
  rw [absorb, hany, collapse, firsts_concat]
  split
  · rw [collapse, List.map_map]
    refine List.map_congr_left fun c _ ↦ ?_
    rw [hplaces]
    rfl
  · rename_i hnew
    have hother : ∀ c ∈ ds, sameControl d c = false := fun c hc ↦
      Bool.eq_false_iff.mpr fun h ↦ hnew (List.any_eq_true.mpr ⟨c, hc, h⟩)
    have hnone : ds.filter (sameControl d) = [] := List.filter_eq_nil_iff.mpr fun c hc ↦ by
      rw [hother c hc]
      exact Bool.false_ne_true
    have hself : sameControl d d = true := sameControl_iff.mpr rfl
    rw [List.map_append, List.map_singleton, hplaces d, hself, if_pos rfl, hnone, List.flatMap_nil,
      List.nil_append, collapse]
    refine congrArg (· ++ _) (List.map_congr_left fun c hc ↦ ?_)
    rw [hplaces, hother c (mem_of_mem_firsts hc), if_neg Bool.false_ne_true]

/-- Collapsing is taking in one declaration after the other. -/
theorem map_key_absorb (merged : List Declaration) (d : Declaration) :
    (absorb merged d).map key =
      if d.key ∈ merged.map key then merged.map key else merged.map key ++ [d.key] := by
  simp only [absorb, any_sameControl_iff]
  split
  · rw [List.map_map]
    rfl
  · rw [List.map_append]
    rfl

/-- Each control is listed once, in the order in which the controls appear. -/
theorem map_key_collapse (ds : List Declaration) :
    (collapse ds).map key = (ds.map key).eraseDups := by
  induction ds using List.reverseRecOn with
  | nil => rfl
  | append_singleton ds d ih =>
    rw [collapse_concat, map_key_absorb, ih, List.map_append, List.map_singleton, eraseDups_concat]
    simp only [List.mem_eraseDups]

/-! ### The distinct controls of any declarations -/

/-- Whether a list has one declaration for each control that is declared in another one, in the
order in which the controls first appear there, which states what the first declaration of the
control states and lists all places of the control in order and each of them once. -/
structure MergedFrom (all merged : List Declaration) : Prop where
  keys_eq : merged.map key = (all.map key).eraseDups
  exists_first : ∀ c ∈ merged, ∃ first, all.find? (·.key == c.key) = some first ∧
    c = { first with occurrences := c.occurrences }
  mem_occurrences_iff : ∀ c ∈ merged, ∀ s,
    s ∈ c.occurrences ↔ ∃ d ∈ all, d.key = c.key ∧ s ∈ d.spans
  occurrences_lt : ∀ c ∈ merged, c.occurrences.Pairwise fun r s ↦ r.lt s = true

variable (ds : List Declaration)

/-- The distinct controls are merged from the declarations in the order of their starts. -/
theorem mergedFrom_distinct : MergedFrom (inOrder (flatten ds)) (distinct ds) where
  keys_eq := by
    rw [distinct, List.map_map, ← map_key_collapse]
    rfl
  exists_first c hc := by
    obtain ⟨own, hown, rfl⟩ := mem_distinct_iff.mp hc
    obtain ⟨first, hfirst, rfl⟩ := mem_collapse_iff.mp hown
    have hsame : sameControl first = (·.key == first.key) := funext fun _ ↦ Bool.beq_comm
    exact ⟨first, hsame ▸ hfirst, rfl⟩
  mem_occurrences_iff c hc s := by
    simp only [mem_occurrences_iff_of_mem_distinct hc, mem_inOrder]
  occurrences_lt c hc := by
    obtain ⟨own, -, rfl⟩ := mem_distinct_iff.mp hc
    exact pairwise_spanSet _

/-- The distinct controls of any declarations are merged from all of them, those nested in others
included, once these are sorted stably by their starts. -/
theorem stablySorted_and_mergedFrom_distinct :
    StablySorted (·.span.start) (ds.flatMap fun d ↦ d :: d.nested)
        (inOrder (ds.flatMap fun d ↦ d :: d.nested)) ∧
      MergedFrom (inOrder (ds.flatMap fun d ↦ d :: d.nested)) (distinct ds) :=
  ⟨stablySorted_sortBy _ _, mergedFrom_distinct ds⟩

end Declaration

end PromptTemplate
