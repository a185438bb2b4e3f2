import PromptTemplate.Proofs.DeclarationInventory
import PromptTemplate.Proofs.StableSorting

/-!
The shape of the declarations of a text. `Orderly` gathers what holds of them whatever the text
is: they are in the order of the text, each control is declared once, every place covers some
whole characters of the text, and no two places at one level share a byte. What is nested in a
toggle lies in the body of one of the blocks of that toggle.

The places at one level are, as a bag, places that were read one after the other, so it is enough
to show of these that they are apart (`pairwise_apart_top`, `pairwise_apart_nested`).
-/

set_option autoImplicit false
set_option relaxedAutoImplicit false

namespace PromptTemplate.Declaration

/-- What the declarations of a text satisfy. Those nested in toggles are flat, so the flattened
list has the declarations of all levels. -/
structure Orderly (t : Text) (ds : List Declaration) : Prop where
  start_lt : ds.Pairwise fun c d ↦ c.span.start < d.span.start
  key_ne : ds.Pairwise fun c d ↦ c.key ≠ d.key
  head_occurrences : ∀ d ∈ flatten ds, d.occurrences.head? = some d.span
  occurrences_lt : ∀ d ∈ flatten ds, d.occurrences.Pairwise fun r s ↦ r.start < s.start
  top_apart : (ds.flatMap (·.occurrences)).Pairwise Span.Apart
  nested_of_toggle : ∀ d ∈ flatten ds, d.nested ≠ [] → d.kind = .toggle
  nested_flat : ∀ d ∈ ds, ∀ n ∈ d.nested, n.kind ≠ .toggle
  nested_key_ne : ∀ d ∈ ds, d.nested.Pairwise fun m n ↦ m.key ≠ n.key
  nested_within : ∀ d ∈ ds, ∀ n ∈ d.nested, ∀ s ∈ n.occurrences, ∃! own, own ∈ d.occurrences ∧
    ∃ body, ToggleBlock.bodyAt .checked t own = .ok (some body) ∧ body.contains s = true
  nested_apart : (ds.flatMap fun d ↦ d.nested.flatMap (·.occurrences)).Pairwise Span.Apart
  span_fits : ∀ d ∈ flatten ds, d.span.Fits t
  occurrences_fit : ∀ d ∈ flatten ds, ∀ s ∈ d.occurrences, s.Fits t

/-! ### The places of one declaration -/

/-- The places of a collapsed declaration, when the declarations that are collapsed stand at one
place each and in the order of the text. -/
theorem occurrences_of_mem_collapse {ds : List Declaration} (hsingle : ∀ d ∈ ds, d.IsSingle)
    (hds : ds.Pairwise fun c d ↦ c.span.start < d.span.start) {c : Declaration}
    (hc : c ∈ collapse ds) :
    c.occurrences.head? = some c.span ∧ (c.occurrences.Pairwise fun r s ↦ r.start < s.start) ∧
      ∀ s, s ∈ c.occurrences ↔ ∃ d ∈ ds, d.key = c.key ∧ d.span = s := by
  have hmem : ∀ s, s ∈ c.occurrences ↔ ∃ d ∈ ds, d.key = c.key ∧ d.span = s := by
    intro s
    rw [mem_occurrences_iff_of_mem_collapse hc]
    refine exists_congr fun d ↦ and_congr_right fun hd ↦ and_congr_right fun _ ↦ ?_
    rw [(hsingle d hd).spans_eq, List.mem_singleton, eq_comm]
  obtain ⟨own, hown, rfl⟩ := mem_collapse_iff.mp hc
  have hspans : (ds.filter (sameControl own)).flatMap spans =
      (ds.filter (sameControl own)).map (·.span) := by
    rw [List.map_eq_flatMap]
    exact List.flatMap_congr fun d hd ↦ (hsingle d (List.mem_of_mem_filter hd)).spans_eq
  refine ⟨?_, ?_, hmem⟩
  · rw [hspans, List.head?_map, List.head?_filter, hown]
    rfl
  · rw [hspans]
    exact List.pairwise_map.mpr (hds.filter _)

variable {t : Text}

/-- The places of a toggle are the blocks of its name, from the first one on. -/
theorem occurrences_of_mem_toggles {d : Declaration} (hd : d ∈ toggles t) :
    d.occurrences.head? = some d.span ∧ (d.occurrences.Pairwise fun r s ↦ r.start < s.start) ∧
      ∀ s, s ∈ d.occurrences ↔ ∃ b ∈ blocksNamed t d.name, b.span = s := by
  have hkind := kind_of_mem_toggles hd
  obtain ⟨c, hc, rfl⟩ := mem_toggles_iff.mp hd
  obtain ⟨hhead, hlt, hmem⟩ := occurrences_of_mem_collapse
    (fun _ ↦ isSingle_of_mem_map_ofBlock) pairwise_start_ofBlock hc
  refine ⟨hhead, hlt, fun s ↦ (hmem s).trans ⟨?_, ?_⟩⟩
  · rintro ⟨e, he, hkey, rfl⟩
    obtain ⟨b, hb, rfl⟩ := List.mem_map.mp he
    exact ⟨b, List.mem_filter.mpr ⟨hb, beq_iff_eq.mpr (congrArg Prod.snd hkey)⟩, rfl⟩
  · rintro ⟨b, hb, rfl⟩
    obtain ⟨hall, hname⟩ := List.mem_filter.mp hb
    exact ⟨ofBlock b, List.mem_map_of_mem hall, Prod.ext hkind.symm (beq_iff_eq.mp hname), rfl⟩

/-- The places of a flat control are those of its directives outside of the blocks, in order. -/
theorem occurrences_of_mem_collapse_outside {d : Declaration} (hd : d ∈ collapse (outside t)) :
    d.occurrences.head? = some d.span ∧ (d.occurrences.Pairwise fun r s ↦ r.start < s.start) ∧
      ∀ s, s ∈ d.occurrences ↔ ∃ e ∈ outside t, e.key = d.key ∧ e.span = s :=
  occurrences_of_mem_collapse (fun _ he ↦ (isFlat_of_mem_outside he).1) pairwise_start_outside hd

/-- The places of a nested control are in blocks of the name of its toggle. -/
theorem occurrences_of_mem_nested {d n : Declaration} (hd : d ∈ toggles t) (hn : n ∈ d.nested) :
    n.occurrences.head? = some n.span ∧ (n.occurrences.Pairwise fun r s ↦ r.start < s.start) ∧
      ∀ s, s ∈ n.occurrences ↔
        ∃ e ∈ (blocksNamed t d.name).flatMap inside, e.key = n.key ∧ e.span = s := by
  rw [nested_of_mem_toggles hd] at hn
  exact occurrences_of_mem_collapse (fun _ he ↦ (isFlat_of_mem_inside he).1)
    (pairwise_start_blocksNamed d.name) hn

/-! ### The places at one level -/

/-- The spans that declarations list are those of the bag of their places. -/
theorem flatMap_occurrences_eq (ds : List Declaration) :
    ds.flatMap (·.occurrences) = (ds.flatMap sites).map (·.2) := by
  rw [List.map_flatMap]
  apply List.flatMap_congr
  intro d _
  simp [sites, Function.comp_def]

/-- What ends before the next one begins shares no byte with it. -/
theorem apart_of_stop_le {ds : List Declaration}
    (hds : ds.Pairwise fun c d ↦ c.span.stop ≤ d.span.start) :
    (ds.map (·.span)).Pairwise Span.Apart :=
  List.pairwise_map.mpr (hds.imp Or.inl)

variable (t)

/-- The places of all declarations that are not nested share no byte. -/
theorem pairwise_apart_top : ((ofText t).flatMap (·.occurrences)).Pairwise Span.Apart := by
  have hblocks : ((ToggleBlock.all t).map blockSite).map (·.2) =
      ((ToggleBlock.all t).map ofBlock).map (·.span) := by
    rw [List.map_map, List.map_map]
    rfl
  have houtside : ((directivesOutside t).filterMap flatSite?).map (·.2) =
      (outside t).map (·.span) := by
    rw [← map_site_outside, List.map_map]
    rfl
  rw [flatMap_occurrences_eq]
  refine (((perm_sites_top t).map (·.2)).pairwise_iff fun h ↦ Span.Apart.symm h).mpr ?_
  rw [List.map_append, hblocks, houtside]
  refine List.pairwise_append.mpr
    ⟨apart_of_stop_le (pairwise_ofBlock t), apart_of_stop_le (pairwise_outside t), ?_⟩
  intro r hr s hs
  obtain ⟨c, hc, rfl⟩ := List.mem_map.mp hr
  obtain ⟨b, hb, rfl⟩ := List.mem_map.mp hc
  obtain ⟨d, hd, rfl⟩ := List.mem_map.mp hs
  exact apart_of_mem_outside hb hd

/-- The places of all nested declarations share no byte. -/
theorem pairwise_apart_nested :
    ((ofText t).flatMap fun d ↦ d.nested.flatMap (·.occurrences)).Pairwise Span.Apart := by
  have hsites : ((ofText t).flatMap fun d ↦ d.nested.flatMap (·.occurrences)) =
      ((ofText t).flatMap fun d ↦ d.nested.flatMap sites).map (·.2) := by
    rw [List.map_flatMap]
    exact List.flatMap_congr fun d _ ↦ flatMap_occurrences_eq d.nested
  have hinside : ((ToggleBlock.all t).flatMap fun b ↦
      (directivesInside b).filterMap flatSite?).map (·.2) =
        ((ToggleBlock.all t).flatMap inside).map (·.span) := by
    rw [List.map_flatMap, List.map_flatMap]
    apply List.flatMap_congr
    intro b _
    rw [← map_site_inside, List.map_map]
    rfl
  rw [hsites]
  refine (((perm_sites_nested t).map (·.2)).pairwise_iff fun h ↦ Span.Apart.symm h).mpr ?_
  rw [hinside]
  exact apart_of_stop_le (pairwise_flatMap_inside (List.Sublist.refl _))

/-! ### The declarations of a text are orderly -/

variable {t}

/-- A declaration, nested or not, is a toggle, a flat control outside of the blocks or one nested in
a toggle. -/
theorem mem_flatten_ofText_iff {d : Declaration} : d ∈ flatten (ofText t) ↔
    d ∈ toggles t ∨ d ∈ collapse (outside t) ∨ ∃ c ∈ toggles t, d ∈ c.nested := by
  simp only [flatten, List.mem_flatMap, List.mem_cons]
  constructor
  · rintro ⟨c, hc, rfl | hd⟩
    · exact (mem_ofText_iff.mp hc).imp_right Or.inl
    · rcases mem_ofText_iff.mp hc with hc | hc
      · exact Or.inr (Or.inr ⟨c, hc, hd⟩)
      · rw [(flat_of_mem_collapse (fun _ ↦ isFlat_of_mem_outside) hc).2] at hd
        exact absurd hd List.not_mem_nil
  · rintro (hd | hd | ⟨c, hc, hd⟩)
    · exact ⟨d, mem_ofText_iff.mpr (Or.inl hd), Or.inl rfl⟩
    · exact ⟨d, mem_ofText_iff.mpr (Or.inr hd), Or.inl rfl⟩
    · exact ⟨c, mem_ofText_iff.mpr (Or.inl hc), Or.inr hd⟩

/-- Only toggles have nested declarations. -/
theorem mem_toggles_of_mem_nested {d n : Declaration} (hd : d ∈ ofText t) (hn : n ∈ d.nested) :
    d ∈ toggles t := by
  rcases mem_ofText_iff.mp hd with hd | hd
  · exact hd
  · rw [(flat_of_mem_collapse (fun _ ↦ isFlat_of_mem_outside) hd).2] at hn
    exact absurd hn List.not_mem_nil

/-- What is nested is flat and has nothing nested in it. -/
theorem flat_of_mem_nested {d n : Declaration} (hd : d ∈ toggles t) (hn : n ∈ d.nested) :
    n.kind ≠ .toggle ∧ n.nested = [] := by
  rw [nested_of_mem_toggles hd] at hn
  exact flat_of_mem_collapse (fun _ ↦ isFlat_of_mem_inside) hn

/-- No toggle is nested. -/
theorem mem_toggles_of_kind_eq {d : Declaration} (hd : d ∈ flatten (ofText t))
    (hkind : d.kind = .toggle) : d ∈ toggles t := by
  rcases mem_flatten_ofText_iff.mp hd with hd | hd | ⟨c, hc, hd⟩
  · exact hd
  · exact absurd hkind (flat_of_mem_collapse (fun _ ↦ isFlat_of_mem_outside) hd).1
  · exact absurd hkind (flat_of_mem_nested hc hd).1

/-- Every declaration begins its places with its own, lists them in order, and each of them
covers whole characters of the text. -/
theorem occurrences_of_mem_flatten {d : Declaration} (hd : d ∈ flatten (ofText t)) :
    d.occurrences.head? = some d.span ∧ (d.occurrences.Pairwise fun r s ↦ r.start < s.start) ∧
      ∀ s ∈ d.occurrences, s.Fits t := by
  rcases mem_flatten_ofText_iff.mp hd with hd | hd | ⟨c, hc, hd⟩
  · obtain ⟨hhead, hlt, hmem⟩ := occurrences_of_mem_toggles hd
    refine ⟨hhead, hlt, fun s hs ↦ ?_⟩
    obtain ⟨b, hb, rfl⟩ := (hmem s).mp hs
    exact fits_of_mem_all (List.mem_of_mem_filter hb)
  · obtain ⟨hhead, hlt, hmem⟩ := occurrences_of_mem_collapse_outside hd
    refine ⟨hhead, hlt, fun s hs ↦ ?_⟩
    obtain ⟨e, he, -, rfl⟩ := (hmem s).mp hs
    exact fits_of_mem_outside he
  · obtain ⟨hhead, hlt, hmem⟩ := occurrences_of_mem_nested hc hd
    refine ⟨hhead, hlt, fun s hs ↦ ?_⟩
    obtain ⟨e, he, -, rfl⟩ := (hmem s).mp hs
    obtain ⟨b, hb, he⟩ := List.mem_flatMap.mp he
    exact (within_of_mem_inside (List.mem_of_mem_filter hb) he).1

/-- The place of a declaration is one of its occurrences. -/
theorem span_mem_occurrences {d : Declaration} (hd : d ∈ flatten (ofText t)) :
    d.span ∈ d.occurrences :=
  List.mem_of_head? (occurrences_of_mem_flatten hd).1

/-- Each place of a nested control lies in the body of one block of its toggle and of no other. The
place is not empty, and the bodies of different blocks are apart. -/
theorem existsUnique_block_of_mem_nested {d n : Declaration} (hd : d ∈ toggles t)
    (hn : n ∈ d.nested) {s : Span} (hs : s ∈ n.occurrences) : ∃! own, own ∈ d.occurrences ∧
      ∃ body, ToggleBlock.bodyAt .checked t own = .ok (some body) ∧ body.contains s = true := by
  simp only [ToggleBlock.bodyAt_checked_eq_some_iff]
  have hblock := (occurrences_of_mem_toggles hd).2.2
  obtain ⟨e, he, -, rfl⟩ := ((occurrences_of_mem_nested hd hn).2.2 s).mp hs
  obtain ⟨b, hb, he⟩ := List.mem_flatMap.mp he
  have hall : b ∈ ToggleBlock.all t := List.mem_of_mem_filter hb
  obtain ⟨hfits, hstart, hstop⟩ := within_of_mem_inside hall he
  have hwithin := ToggleBlock.bodySpan_within hall
  refine ⟨b.span, ⟨(hblock _).mpr ⟨b, hb, rfl⟩, ToggleBlock.bodySpan b,
    ToggleBlock.bodyAt?_of_mem_all hall, by simp [Span.contains, hstart, hstop]⟩, ?_⟩
  rintro own ⟨hown, body, hbody, hcontains⟩
  obtain ⟨b', hb', rfl⟩ := (hblock own).mp hown
  have hall' : b' ∈ ToggleBlock.all t := List.mem_of_mem_filter hb'
  have hwithin' := ToggleBlock.bodySpan_within hall'
  rw [ToggleBlock.bodyAt?_of_mem_all hall'] at hbody
  obtain rfl := Option.some.inj hbody
  simp only [Span.contains, Bool.and_eq_true, decide_eq_true_eq] at hcontains
  rcases Scan.eq_or_apart_of_mem_items ToggleBlock.lawful t hall' hall with rfl | hapart
  · rfl
  · have hlt := hfits.start_lt_stop
    rcases hapart with h | h <;> omega

variable (t)

/-- The declarations are listed from the left to the right. -/
theorem pairwise_start_ofText : (ofText t).Pairwise fun c d ↦ c.span.start < d.span.start := by
  have hsorted : (ofText t).Pairwise fun c d ↦ c.span.start ≤ d.span.start :=
    pairwise_sortBy_le (fun d : Declaration ↦ d.span.start) _
  refine (hsorted.and (List.pairwise_flatMap.mp (pairwise_apart_top t)).2).imp_of_mem ?_
  rintro c d hc hd ⟨hle, hapart⟩
  have hmem : ∀ e ∈ ofText t, e ∈ flatten (ofText t) := fun e he ↦
    List.mem_flatMap.mpr ⟨e, he, List.mem_cons_self⟩
  have hcspan := span_mem_occurrences (hmem c hc)
  have hdspan := span_mem_occurrences (hmem d hd)
  have hcfits := (occurrences_of_mem_flatten (hmem c hc)).2.2 _ hcspan
  have hdfits := (occurrences_of_mem_flatten (hmem d hd)).2.2 _ hdspan
  have hclt := hcfits.start_lt_stop
  have hdlt := hdfits.start_lt_stop
  rcases hapart _ hcspan _ hdspan with h | h <;> omega

/-- No control is listed twice at the top. -/
theorem pairwise_key_ofText : (ofText t).Pairwise fun c d ↦ c.key ≠ d.key := by
  refine ((sortBy_perm _ _).pairwise_iff fun h ↦ Ne.symm h).mpr ?_
  refine List.pairwise_append.mpr ⟨?_, pairwise_key_collapse _, fun c hc d hd ↦ ?_⟩
  · exact List.pairwise_map.mpr (pairwise_key_collapse ((ToggleBlock.all t).map ofBlock))
  · have hcollapse := flat_of_mem_collapse (fun _ ↦ isFlat_of_mem_outside) hd
    intro hkey
    exact hcollapse.1 ((congrArg Prod.fst hkey).symm.trans (kind_of_mem_toggles hc))

/-- What holds of the declarations of any text. -/
theorem orderly_ofText : Orderly t (ofText t) where
  start_lt := pairwise_start_ofText t
  key_ne := pairwise_key_ofText t
  head_occurrences _ hd := (occurrences_of_mem_flatten hd).1
  occurrences_lt _ hd := (occurrences_of_mem_flatten hd).2.1
  top_apart := pairwise_apart_top t
  nested_of_toggle d hd hnested := by
    rcases mem_flatten_ofText_iff.mp hd with hd | hd | ⟨c, hc, hd⟩
    · exact kind_of_mem_toggles hd
    · exact absurd (flat_of_mem_collapse (fun _ ↦ isFlat_of_mem_outside) hd).2 hnested
    · exact absurd (flat_of_mem_nested hc hd).2 hnested
  nested_flat _ hd _ hn := (flat_of_mem_nested (mem_toggles_of_mem_nested hd hn) hn).1
  nested_key_ne d hd := by
    rcases mem_ofText_iff.mp hd with hd | hd
    · rw [nested_of_mem_toggles hd]
      exact pairwise_key_collapse _
    · rw [(flat_of_mem_collapse (fun _ ↦ isFlat_of_mem_outside) hd).2]
      exact List.Pairwise.nil
  nested_within _ hd _ hn _ hs :=
    existsUnique_block_of_mem_nested (mem_toggles_of_mem_nested hd hn) hn hs
  nested_apart := pairwise_apart_nested t
  span_fits _ hd := (occurrences_of_mem_flatten hd).2.2 _ (span_mem_occurrences hd)
  occurrences_fit _ hd := (occurrences_of_mem_flatten hd).2.2

end PromptTemplate.Declaration
