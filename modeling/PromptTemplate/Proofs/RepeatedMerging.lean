import PromptTemplate.Proofs.MergedControls
import PromptTemplate.Proofs.ReferenceRewriting

/-!
Merging what was merged. Of the declarations of a text, nested ones included, no two start at the
same place (`toldApart_ofText`). The order in which such declarations are listed does not matter,
because sorting by the start leaves only one (`distinct_eq_of_perm`).

The distinct controls of a text hold each nested control twice, next to its toggle and still under
it. But where two declarations start together they are the merged control and the declaration it was
merged from, which differ in their places only, and all places were collected before
(`mem_spans_flatten_distinct_iff`). So merging again changes nothing (`distinct_distinct`). Filling
in a text begins with merging, so it does not depend on the order either
(`distinct_ofText_again_and_of_perm`).
-/

set_option autoImplicit false
set_option relaxedAutoImplicit false

namespace PromptTemplate.Declaration

/-- Whether declarations at all levels are told apart by where they start, and what is nested in one
of them is among them. -/
structure ToldApart (ds : List Declaration) : Prop where
  eq_of_start_eq : ∀ c ∈ flatten ds, ∀ d ∈ flatten ds, c.span.start = d.span.start → c = d
  nested_mem : ∀ d ∈ flatten ds, ∀ n ∈ d.nested, n ∈ flatten ds

theorem mem_flatten_of_mem {d : Declaration} {ds : List Declaration} (hd : d ∈ ds) :
    d ∈ flatten ds :=
  List.mem_flatMap.mpr ⟨d, hd, List.mem_cons_self⟩

/-! ### The distinct controls in their order -/

section Order

variable {ds es : List Declaration}

/-- Distinct controls are listed from the left to the right. -/
theorem pairwise_start_distinct (ds : List Declaration) :
    (distinct ds).Pairwise fun c d ↦ c.span.start ≤ d.span.start :=
  List.pairwise_map.mpr (List.pairwise_map.mpr
    ((pairwise_sortBy_le (fun d : Declaration ↦ d.span.start) (flatten ds)).sublist
      (firsts_sublist _)))

theorem pairwise_key_distinct (ds : List Declaration) :
    (distinct ds).Pairwise fun c d ↦ c.key ≠ d.key :=
  List.pairwise_map.mpr (pairwise_key_collapse _)

theorem eq_of_mem_distinct {c d : Declaration} (hc : c ∈ distinct ds) (hd : d ∈ distinct ds)
    (hkey : c.key = d.key) : c = d :=
  List.inj_on_of_nodup_map (List.pairwise_map.mpr (pairwise_key_distinct ds)) hc hd hkey

/-- The distinct controls do not depend on the order in which declarations are listed. -/
theorem distinct_eq_of_perm (h : ToldApart es) (hperm : ds.Perm es) :
    distinct ds = distinct es := by
  have hflatten : (flatten es).Perm (flatten ds) := (hperm.flatMap_right _).symm
  have horder : inOrder (flatten es) = inOrder (flatten ds) :=
    sortBy_eq_of_perm (fun d : Declaration ↦ d.span.start) hflatten h.eq_of_start_eq
  rw [distinct, distinct, horder]

end Order

/-! ### Merging again -/

section Again

variable {ds : List Declaration}

/-- What the distinct controls hold are these themselves and nested declarations that were there
before. -/
theorem mem_flatten_distinct (h : ToldApart ds) {d : Declaration}
    (hd : d ∈ flatten (distinct ds)) : d ∈ distinct ds ∨ d ∈ flatten ds := by
  obtain ⟨c, hc, hd⟩ := List.mem_flatMap.mp hd
  rcases List.mem_cons.mp hd with rfl | hd
  · exact Or.inl hc
  · obtain ⟨own, hown, places, rfl, -⟩ := exists_first_of_mem_distinct hc
    exact Or.inr (h.nested_mem own hown d hd)

/-- The distinct controls list the places that were listed before, and no others. -/
theorem mem_spans_flatten_distinct_iff (h : ToldApart ds) {k : Kind × Text} {s : Span} :
    (∃ d ∈ flatten (distinct ds), d.key = k ∧ s ∈ d.spans) ↔
      ∃ d ∈ flatten ds, d.key = k ∧ s ∈ d.spans := by
  constructor
  · rintro ⟨d, hd, rfl, hs⟩
    rcases mem_flatten_distinct h hd with hd | hd
    · exact (mem_spans_of_mem_distinct hd).mp hs
    · exact ⟨d, hd, rfl, hs⟩
  · rintro ⟨d, hd, rfl, hs⟩
    obtain ⟨c, hc, hkey⟩ := exists_mem_distinct hd
    exact ⟨c, mem_flatten_of_mem hc, hkey,
      (mem_spans_of_mem_distinct hc).mpr ⟨d, hd, hkey.symm, hs⟩⟩

/-- The earliest declaration among the distinct controls and what they hold is, but for its places,
the distinct control. -/
theorem eq_of_earliest (h : ToldApart ds) {first c : Declaration}
    (hfirst : first ∈ flatten (distinct ds)) (hc : c ∈ distinct ds) (hkey : c.key = first.key)
    (hle : first.span.start ≤ c.span.start) :
    c = { first with occurrences := c.occurrences } := by
  rcases mem_flatten_distinct h hfirst with hmem | hmem
  · rw [eq_of_mem_distinct hmem hc hkey.symm]
    cases c
    rfl
  · obtain ⟨own, hown, places, rfl, hle'⟩ := exists_first_of_mem_distinct hc
    have hstart : first.span.start = own.span.start :=
      Nat.le_antisymm hle (hle' first hmem hkey.symm)
    rw [h.eq_of_start_eq first hmem own hown hstart]

/-- A control that is merged again is one that was merged before. Its places ascend before and
after, so they are the same as soon as they have the same elements. -/
theorem mem_distinct_of_mem_distinct_distinct (h : ToldApart ds) {c : Declaration}
    (hc : c ∈ distinct (distinct ds)) : c ∈ distinct ds := by
  obtain ⟨first, hfirst, places, rfl, hle⟩ := exists_first_of_mem_distinct hc
  obtain ⟨before, hbefore, hkey⟩ : ∃ before ∈ distinct ds, before.key = first.key := by
    rcases mem_flatten_distinct h hfirst with hmem | hmem
    · exact ⟨first, hmem, rfl⟩
    · exact exists_mem_distinct hmem
  have heq := eq_of_earliest h hfirst hbefore hkey
    (hle before (mem_flatten_of_mem hbefore) hkey)
  have hplaces : places = before.occurrences := by
    refine ((mergedFrom_distinct _).occurrences_lt _ hc).eq_of_mem_iff
      ((mergedFrom_distinct _).occurrences_lt _ hbefore) fun s ↦ ?_
    calc s ∈ places ↔ ∃ d ∈ flatten (distinct ds), d.key = first.key ∧ s ∈ d.spans :=
          mem_occurrences_iff_of_mem_distinct hc
      _ ↔ ∃ d ∈ flatten ds, d.key = before.key ∧ s ∈ d.spans := by
          rw [hkey, mem_spans_flatten_distinct_iff h]
      _ ↔ s ∈ before.occurrences := (mem_occurrences_iff_of_mem_distinct hbefore).symm
  rw [hplaces, ← heq]
  exact hbefore

/-- Merging what was merged changes nothing. -/
theorem distinct_distinct (h : ToldApart ds) : distinct (distinct ds) = distinct ds := by
  have hmem : ∀ c, c ∈ distinct (distinct ds) ↔ c ∈ distinct ds := by
    refine fun c ↦ ⟨mem_distinct_of_mem_distinct_distinct h, fun hc ↦ ?_⟩
    obtain ⟨c', hc', hkey⟩ := exists_mem_distinct (mem_flatten_of_mem hc)
    rwa [← eq_of_mem_distinct (mem_distinct_of_mem_distinct_distinct h hc') hc hkey]
  have hnodup : ∀ es : List Declaration, (distinct es).Nodup := fun es ↦
    (pairwise_key_distinct es).imp fun hkey heq ↦ hkey (congrArg key heq)
  refine eq_of_ordered (·.span.start)
    ((List.perm_ext_iff_of_nodup (hnodup _) (hnodup _)).mpr hmem)
    (pairwise_start_distinct _) (pairwise_start_distinct _) fun c hc d hd hstart ↦ ?_
  obtain ⟨own, hown, places, heq, -⟩ := exists_first_of_mem_distinct ((hmem c).mp hc)
  obtain ⟨own', hown', places', heq', -⟩ := exists_first_of_mem_distinct ((hmem d).mp hd)
  subst heq heq'
  obtain rfl := h.eq_of_start_eq own hown own' hown' hstart
  exact eq_of_mem_distinct hc hd rfl

end Again

/-! ### The declarations of a text -/

variable (t : Text)

/-- No two places at which a text declares something start together. -/
theorem pairwise_start_written : (written t).Pairwise fun c d ↦ c.span.start ≠ d.span.start := by
  have hinside := pairwise_start_inside (List.Sublist.refl (ToggleBlock.all t))
  have hflats : (flats t).Pairwise fun c d ↦ c.span.start ≠ d.span.start := by
    refine List.pairwise_append.mpr ⟨pairwise_start_outside.imp Nat.ne_of_lt,
      hinside.imp Nat.ne_of_lt, fun c hc d hd ↦ ?_⟩
    obtain ⟨b, hb, hd⟩ := List.mem_flatMap.mp hd
    exact ((apart_of_mem_inside_of_mem_outside hb hd hc).start_ne
      (within_of_mem_inside hb hd).1.start_lt_stop (fits_of_mem_outside hc).start_lt_stop).symm
  refine List.pairwise_append.mpr ⟨pairwise_start_ofBlock.imp Nat.ne_of_lt, hflats,
    fun c hc d hd ↦ ?_⟩
  obtain ⟨b, hb, rfl⟩ := List.mem_map.mp hc
  have hpos := (fits_of_mem_all hb).start_lt_stop
  have hpos' := (fits_of_mem_flats hd).start_lt_stop
  rcases mem_flats_iff.mp hd with hd | ⟨b', hb', hd⟩
  · exact (apart_of_mem_outside hb hd).start_ne hpos hpos'
  · have hwithin := (within_of_mem_inside hb' hd).2
    have hbody := ToggleBlock.bodySpan_within hb'
    change b.span.start ≠ d.span.start
    rcases Scan.eq_or_apart_of_mem_items ToggleBlock.lawful t hb hb' with rfl | hapart
    · omega
    · unfold Span.Apart at hapart
      omega

/-- No two declarations of a text start together, nested ones included. -/
theorem pairwise_start_flatten_ofText :
    (flatten (ofText t)).Pairwise fun c d ↦ c.span.start ≠ d.span.start := by
  have hsites : ((flatten (ofText t)).flatMap sites).Pairwise
      fun r s ↦ r.2.start ≠ s.2.start :=
    ((perm_sites_flatten_ofText t).pairwise_iff Ne.symm).mpr
      (List.pairwise_map.mpr (pairwise_start_written t))
  refine (List.pairwise_flatMap.mp hsites).2.imp_of_mem fun {c d} hc hd h ↦ ?_
  exact h (c.key, c.span) (List.mem_map_of_mem (span_mem_occurrences hc))
    (d.key, d.span) (List.mem_map_of_mem (span_mem_occurrences hd))

/-- The declarations of a text are told apart by where they start. -/
theorem toldApart_ofText : ToldApart (ofText t) where
  eq_of_start_eq _ hc _ hd :=
    List.inj_on_of_nodup_map (List.pairwise_map.mpr (pairwise_start_flatten_ofText t)) hc hd
  nested_mem d hd n hn := by
    have hd' : d ∈ toggles t := by
      rcases mem_flatten_ofText_iff.mp hd with hd | hd | ⟨c, hc, hd⟩
      · exact hd
      · rw [(flat_of_mem_collapse (fun _ ↦ isFlat_of_mem_outside) hd).2] at hn
        exact absurd hn List.not_mem_nil
      · rw [(flat_of_mem_nested hc hd).2] at hn
        exact absurd hn List.not_mem_nil
    exact mem_flatten_ofText_iff.mpr (Or.inr (Or.inr ⟨d, hd', hn⟩))

variable {t}

/-- A toggle still holds its nested controls when it is merged. -/
theorem exists_distinct_nested_eq {d : Declaration} (hd : d ∈ toggles t) :
    ∃ c ∈ distinct (ofText t), c.key = d.key ∧ c.nested = d.nested := by
  have hd' := mem_flatten_ofText_iff.mpr (Or.inl hd)
  obtain ⟨c, hc, hkey⟩ := exists_mem_distinct hd'
  obtain ⟨own, hown, places, rfl, -⟩ := exists_first_of_mem_distinct hc
  have hkind : own.kind = .toggle := (congrArg Prod.fst hkey).trans (kind_of_mem_toggles hd)
  have hname : own.name = d.name := congrArg Prod.snd hkey
  refine ⟨_, hc, hkey, ?_⟩
  calc own.nested = collapse ((blocksNamed t own.name).flatMap inside) :=
        nested_of_mem_toggles (mem_toggles_of_kind_eq hown hkind)
    _ = d.nested := by rw [hname, nested_of_mem_toggles hd]

/-- Merging the declarations of a text again changes nothing, although its toggles still hold what
is nested in them, and their order matters neither for merging nor for filling in the text. -/
theorem distinct_ofText_again_and_of_perm (t : Text) :
    distinct (distinct (ofText t)) = distinct (ofText t) ∧
      (∀ d ∈ ofText t, d.kind = .toggle →
        ∃ c ∈ distinct (ofText t), c.key = d.key ∧ c.nested = d.nested) ∧
      ∀ ds, ds.Perm (ofText t) → distinct ds = distinct (ofText t) ∧
        ∀ values, ∃ output,
          render t ds values = .ok output ∧ render t (ofText t) values = .ok output := by
  refine ⟨distinct_distinct (toldApart_ofText t), fun d hd hkind ↦ ?_, fun ds hperm ↦ ?_⟩
  · exact exists_distinct_nested_eq (mem_toggles_of_kind_eq (mem_flatten_of_mem hd) hkind)
  · have hdistinct := distinct_eq_of_perm (toldApart_ofText t) hperm
    refine ⟨hdistinct, fun values ↦ ⟨_, ?_, Rendering.render_ofText_eq_rendered t values⟩⟩
    rw [← Rendering.render_ofText_eq_rendered, render, render, Rendering.renderWith,
      Rendering.renderWith, hdistinct]

/-- A control that is written in a block and outside of it. -/
def insideAndOutside : Text := "{{toggle:T}}{{text:A}}{{/toggle:T}}{{text:A:x}}".toList

theorem distinct_ofText_again_and_of_perm_insideAndOutside :
    distinct (distinct (ofText insideAndOutside)) = distinct (ofText insideAndOutside) ∧
      (∃ d ∈ ofText insideAndOutside, d.kind = .toggle ∧ d.nested ≠ [] ∧
        ∃ c ∈ distinct (ofText insideAndOutside), c.key = d.key ∧ c.nested = d.nested) ∧
      (ofText insideAndOutside).reverse.Perm (ofText insideAndOutside) ∧
      distinct (ofText insideAndOutside).reverse = distinct (ofText insideAndOutside) ∧
      ∀ values, ∃ output,
        render insideAndOutside (ofText insideAndOutside).reverse values = .ok output ∧
          render insideAndOutside (ofText insideAndOutside) values = .ok output :=
  have hall := distinct_ofText_again_and_of_perm insideAndOutside
  have hperm := List.reverse_perm (ofText insideAndOutside)
  ⟨hall.1, ⟨(ofText insideAndOutside).head (by decide), List.head_mem _, by decide, by decide,
    hall.2.1 _ (List.head_mem _) (by decide)⟩, hperm, hall.2.2 _ hperm⟩

end PromptTemplate.Declaration
