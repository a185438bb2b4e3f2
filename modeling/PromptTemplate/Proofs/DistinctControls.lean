import PromptTemplate.Proofs.DeclarationShape

/-!
The distinct controls of a document. For any declarations, `distinct` has one declaration for each
control that is declared, with all places of it, and what it states is what the declaration with
the smallest start states (`mem_spans_of_mem_distinct`, `carriesEarliest_of_mem_distinct`). Of the
declarations of a text these are the places and the statements that are written in it
(`mem_spans_distinct_ofText`, `carriesEarliest_distinct_ofText`), however they were collapsed in
between.
-/

set_option autoImplicit false
set_option relaxedAutoImplicit false

namespace PromptTemplate.Declaration

theorem mem_dropRepeats {s : Span} {spans : List Span} : s ∈ dropRepeats spans ↔ s ∈ spans := by
  induction spans with
  | nil => rfl
  | cons r rest ih =>
    rw [dropRepeats, List.mem_cons, ← ih]
    split
    · rename_i hrest
      simp [hrest]
    · rename_i r' rest' hrest
      rw [hrest]
      split
      · rename_i heq
        rw [heq, List.mem_cons]
        exact (or_self_left).symm
      · exact List.mem_cons

theorem mem_spanSet {s : Span} {spans : List Span} : s ∈ spanSet spans ↔ s ∈ spans := by
  rw [spanSet, mem_dropRepeats, mem_sortBy]

theorem spans_eq_of_ne_nil {d : Declaration} (h : d.occurrences ≠ []) :
    d.spans = d.occurrences := by
  rw [spans, if_neg (by rwa [List.isEmpty_iff])]

/-- Every declaration stands somewhere. -/
theorem exists_mem_spans (d : Declaration) : ∃ s, s ∈ d.spans := by
  by_cases h : d.occurrences = []
  · exact ⟨d.span, by simp [spans, h]⟩
  · rw [spans_eq_of_ne_nil h]
    exact List.exists_mem_of_ne_nil _ h

/-! ### The distinct controls of any declarations -/

section Distinct

variable {ds : List Declaration}

/-- A distinct control is a collapsed one with its places sorted. -/
theorem mem_distinct_iff {c : Declaration} : c ∈ distinct ds ↔
    ∃ own ∈ collapse (inOrder (flatten ds)),
      c = { own with occurrences := spanSet own.occurrences } := by
  simp only [distinct, List.mem_map, eq_comm]

theorem mem_inOrder {d : Declaration} : d ∈ inOrder ds ↔ d ∈ ds := mem_sortBy

/-- A distinct control has the places of all declarations with its key, nested ones included. -/
theorem mem_occurrences_iff_of_mem_distinct {c : Declaration} (hc : c ∈ distinct ds) {s : Span} :
    s ∈ c.occurrences ↔ ∃ d ∈ flatten ds, d.key = c.key ∧ s ∈ d.spans := by
  obtain ⟨own, hown, rfl⟩ := mem_distinct_iff.mp hc
  simp only [mem_spanSet, mem_occurrences_iff_of_mem_collapse hown, mem_inOrder]
  rfl

/-- But for its places, a distinct control is the declaration of it with the smallest start. -/
theorem exists_first_of_mem_distinct {c : Declaration} (hc : c ∈ distinct ds) :
    ∃ own ∈ flatten ds, ∃ places, c = { own with occurrences := places } ∧
      ∀ other ∈ flatten ds, other.key = own.key → own.span.start ≤ other.span.start := by
  obtain ⟨d, hd, rfl⟩ := mem_distinct_iff.mp hc
  obtain ⟨own, hown, rfl⟩ := mem_collapse_iff.mp hd
  have hsorted := pairwise_sortBy_le (fun d : Declaration ↦ d.span.start) (flatten ds)
  exact ⟨own, mem_inOrder.mp (List.mem_of_find?_eq_some hown), _, rfl, fun other hother hkey ↦
    start_le_of_find?_eq_some hsorted hown (mem_inOrder.mpr hother) hkey⟩

/-- A distinct control lists its places, also if its declarations do not. -/
theorem spans_of_mem_distinct {c : Declaration} (hc : c ∈ distinct ds) :
    c.spans = c.occurrences := by
  obtain ⟨own, hown, places, rfl, -⟩ := exists_first_of_mem_distinct hc
  obtain ⟨r, hr⟩ := exists_mem_spans own
  have hmem := (mem_occurrences_iff_of_mem_distinct hc).mpr ⟨own, hown, rfl, hr⟩
  exact spans_eq_of_ne_nil (List.ne_nil_of_mem hmem)

/-- The places of a distinct control are the places of all declarations of it. -/
theorem mem_spans_of_mem_distinct {c : Declaration} (hc : c ∈ distinct ds) {s : Span} :
    s ∈ c.spans ↔ ∃ d ∈ flatten ds, d.key = c.key ∧ s ∈ d.spans := by
  rw [spans_of_mem_distinct hc, mem_occurrences_iff_of_mem_distinct hc]

/-- A distinct control states what its earliest declaration states. -/
theorem carriesEarliest_of_mem_distinct {c : Declaration} (hc : c ∈ distinct ds) :
    CarriesEarliest c (flatten ds) := by
  obtain ⟨own, hown, places, rfl, hle⟩ := exists_first_of_mem_distinct hc
  exact ⟨own, hown, rfl, rfl, rfl, hle⟩

/-- Every declaration is merged into some control. -/
theorem exists_mem_distinct {d : Declaration} (hd : d ∈ flatten ds) :
    ∃ c ∈ distinct ds, c.key = d.key := by
  obtain ⟨own, hown, hkey⟩ := exists_mem_collapse (mem_inOrder.mpr hd)
  exact ⟨_, mem_distinct_iff.mpr ⟨own, hown, rfl⟩, hkey⟩

/-- Leaving out some controls makes no difference to the others. -/
theorem filter_key_distinct (p : Kind × Text → Bool) (ds : List Declaration) :
    (distinct ds).filter (fun d ↦ p d.key) =
      (collapse (inOrder ((flatten ds).filter fun d ↦ p d.key))).map fun d ↦
        { d with occurrences := spanSet d.occurrences } := by
  have hsorted := filter_sortBy_le (fun d : Declaration ↦ d.span.start) (fun d ↦ p d.key)
    (flatten ds)
  rw [inOrder, ← hsorted, ← filter_key_collapse, distinct, List.filter_map]
  rfl

end Distinct

/-! ### The distinct controls of a text -/

variable {t : Text}

/-- The declarations of a text at all levels list what is written in it. -/
theorem perm_sites_flatten_ofText (t : Text) :
    ((flatten (ofText t)).flatMap sites).Perm ((written t).map fun d ↦ (d.key, d.span)) := by
  have hwritten : ((written t).map fun d ↦ (d.key, d.span)) =
      (ToggleBlock.all t).map blockSite ++ (directivesOutside t).filterMap flatSite? ++
        (ToggleBlock.all t).flatMap fun b ↦ (directivesInside b).filterMap flatSite? := by
    simp only [written, flats, List.map_append, List.map_flatMap, map_site_outside,
      map_site_inside, List.map_map, List.append_assoc]
    rfl
  rw [hwritten, flatten, List.flatMap_assoc]
  simp only [List.flatMap_cons]
  exact (List.flatMap_append_perm _ _ _).symm.trans
    ((perm_sites_top t).append (perm_sites_nested t))

/-- The declarations of a text list their places. -/
theorem spans_of_mem_flatten {d : Declaration} (hd : d ∈ flatten (ofText t)) :
    d.spans = d.occurrences :=
  spans_eq_of_ne_nil (List.ne_nil_of_mem (span_mem_occurrences hd))

/-- The place of a declaration of a text is the first one that it lists. -/
theorem start_le_of_mem_occurrences {d : Declaration} (hd : d ∈ flatten (ofText t)) {s : Span}
    (hs : s ∈ d.occurrences) : d.span.start ≤ s.start := by
  obtain ⟨hhead, hlt, -⟩ := occurrences_of_mem_flatten hd
  obtain ⟨rest, hrest⟩ := List.head?_eq_some_iff.mp hhead
  rw [hrest] at hs hlt
  rcases List.mem_cons.mp hs with rfl | hs
  · exact Nat.le_refl _
  · exact Nat.le_of_lt ((List.pairwise_cons.mp hlt).1 s hs)

/-- The places that the declarations of a text list are those at which they are written. -/
theorem exists_mem_spans_flatten_iff {k : Kind × Text} {s : Span} :
    (∃ d ∈ flatten (ofText t), d.key = k ∧ s ∈ d.spans) ↔
      ∃ w ∈ written t, w.key = k ∧ w.span = s := by
  have hmem := (perm_sites_flatten_ofText t).mem_iff (a := (k, s))
  simp only [List.mem_flatMap, List.mem_map, sites, Prod.mk.injEq, exists_eq_right_right] at hmem
  rw [← hmem]
  refine exists_congr fun d ↦ and_congr_right fun hd ↦ ?_
  rw [spans_of_mem_flatten hd]
  exact And.comm

/-- The places of a distinct control are those at which it is written. -/
theorem mem_spans_distinct_ofText {c : Declaration} (hc : c ∈ distinct (ofText t)) {s : Span} :
    s ∈ c.spans ↔ ∃ w ∈ written t, w.key = c.key ∧ w.span = s :=
  (mem_spans_of_mem_distinct hc).trans exists_mem_spans_flatten_iff

/-- Each declaration of a text, at any level, states what is written at its own place. -/
theorem exists_written_of_mem_flatten {d : Declaration} (hd : d ∈ flatten (ofText t)) :
    ∃ w ∈ written t, w.key = d.key ∧ w.payload = d.payload ∧ w.span = d.span := by
  rcases mem_flatten_ofText_iff.mp hd with hd | hd | ⟨c, hc, hd⟩
  · obtain ⟨w, hw, hkey, hpayload, hspan, -⟩ := carriesEarliest_of_mem_toggles hd
    exact ⟨w, List.mem_append_left _ hw, hkey, hpayload, hspan⟩
  · obtain ⟨w, hw, hkey, hpayload, hspan, -⟩ := carriesEarliest_of_mem_outside hd
    exact ⟨w, List.mem_append_right _ (List.mem_append_left _ hw), hkey, hpayload, hspan⟩
  · obtain ⟨w, hw, hkey, hpayload, hspan, -⟩ := carriesEarliest_of_mem_nested hc hd
    obtain ⟨b, hb, hwb⟩ := List.mem_flatMap.mp hw
    have hflat : w ∈ flats t := mem_flats_iff.mpr (Or.inr ⟨b, List.mem_of_mem_filter hb, hwb⟩)
    exact ⟨w, List.mem_append_right _ hflat, hkey, hpayload, hspan⟩

/-- A distinct control states what is written at its earliest place in the text. -/
theorem carriesEarliest_distinct_ofText {c : Declaration} (hc : c ∈ distinct (ofText t)) :
    CarriesEarliest c (written t) := by
  obtain ⟨own, hown, hkey, hpayload, hspan, hle⟩ := carriesEarliest_of_mem_distinct hc
  obtain ⟨w, hw, hwkey, hwpayload, hwspan⟩ := exists_written_of_mem_flatten hown
  refine ⟨w, hw, hwkey.trans hkey, hwpayload.trans hpayload, hwspan.trans hspan,
    fun other hother hotherKey ↦ ?_⟩
  obtain ⟨d, hd, hdkey, hmem⟩ := exists_mem_spans_flatten_iff.mpr ⟨other, hother, hotherKey, rfl⟩
  rw [spans_of_mem_flatten hd] at hmem
  calc w.span.start = own.span.start := by rw [hwspan]
    _ ≤ d.span.start := hle d hd hdkey
    _ ≤ other.span.start := start_le_of_mem_occurrences hd hmem

/-- Whatever is written has a distinct control. -/
theorem exists_mem_distinct_ofText {w : Declaration} (hw : w ∈ written t) :
    ∃ c ∈ distinct (ofText t), c.key = w.key := by
  obtain ⟨d, hd, hkey, -⟩ := exists_mem_spans_flatten_iff.mpr ⟨w, hw, rfl, rfl⟩
  obtain ⟨c, hc, hckey⟩ := exists_mem_distinct hd
  exact ⟨c, hc, hckey.trans hkey⟩

end PromptTemplate.Declaration
