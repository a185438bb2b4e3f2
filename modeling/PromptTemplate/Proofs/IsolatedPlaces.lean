import PromptTemplate.Proofs.DistinctControls
import PromptTemplate.Proofs.EffectiveDirectives
import PromptTemplate.Proofs.MovedDeclarations

/-!
The places of a text cut out of it. A flat directive holds no block, since both tags of a block end
with a closing mark and a directive has only one (`ToggleBlock.all_directive_source`). A block that
is cut out ends with the same closing tag as before (`ToggleBlock.all_source`), and no directive is
outside of it. So what is written at one place declares, as a text of its own, one control that
covers all of it (`ofText_directive_source`, `ofText_block_source`), and moved to its place this is
what the whole text declares there (`exists_alone_of_mem_flats`, `exists_alone_of_mem_all`, both in
`exists_alone_of_mem_written`).

A declaration of a text gathers such places. Each of them, cut out, means the control that the
declaration stands for (`meansTheSame_of_mem_occurrences`).
-/

set_option autoImplicit false
set_option relaxedAutoImplicit false

namespace PromptTemplate

/-! ### One item as a text of its own -/

/-- An item that is read in its own source is all that is found there. -/
theorem Scan.items_source {α : Type} {read? : Text → Option α} {source : α → Text}
    (law : Lawful read? source) {item : α} (hread : read? (source item) = some item) :
    items read? source (source item) = [⟨item, ⟨0, Text.width (source item)⟩⟩] := by
  have hread' : read? (source item ++ []) = some item := by rwa [List.append_nil]
  have htake := itemsFrom_take (law.source_ne_nil hread) hread' 0
  rw [List.append_nil, itemsFrom_nil, Nat.zero_add] at htake
  exact htake

theorem Span.slice?_whole (t : Text) : (⟨0, Text.width t⟩ : Span).slice? t = some t :=
  slice?_eq_some_iff.mpr ⟨[], [], by simp, by simp⟩

/-- An item that stands somewhere is the one that begins its own source, further right. -/
theorem Placed.eq_shift_of_slice? {α : Type} {source : α → Text} {t : Text} {p : Placed α}
    (h : p.span.slice? t = some (source p.item)) :
    p = Placed.shift ⟨p.item, ⟨0, Text.width (source p.item)⟩⟩ p.span.start := by
  obtain ⟨pre, post, -, hspan⟩ := Span.slice?_eq_some_iff.mp h
  refine congrArg (Placed.mk p.item) ?_
  rw [hspan, Span.shift, Nat.zero_add, Nat.add_comm]

/-- The source of a directive has no other directive in it. -/
theorem Directive.known_source {d : Directive} (hvalid : d.Valid)
    (hkind : d.kind?.isSome = true) : known d.source = [⟨d, ⟨0, Text.width d.source⟩⟩] :=
  Scan.items_source lawful_known
    ((braced (·.kind?.isSome)).read?_eq_some_iff.mpr ⟨⟨hvalid, hkind⟩, List.prefix_refl _⟩)

namespace ToggleBlock

/-- No block lies in a directive: its two tags would end where the directive ends. -/
theorem all_directive_source {d : Directive} (hvalid : d.Valid) : all d.source = [] := by
  refine List.eq_nil_iff_forall_not_mem.mpr fun b hb ↦ ?_
  have hends : ∀ role, (tag b role).span.stop = Text.width d.source := by
    intro role
    obtain ⟨-, hname, htag⟩ := ToggleTag.mem_all_iff.mp (tag_mem_all hb role)
    have hfits := Span.fits_of_slice?_eq_some htag (ToggleTag.source_ne_nil _)
    exact ((Directive.isBraced_source hvalid).suffix_of_start_mem (ToggleTag.isBraced_source hname)
      (Span.slice?_whole d.source) htag (Nat.zero_le _)
      (Nat.lt_of_lt_of_le hfits.start_lt_stop hfits.stop_le_width)).1
  have hopening : (bodySpan b).start = Text.width d.source := hends .opening
  have hclosing : b.span.stop = Text.width d.source := hends .closing
  have hbody := bodySpan_within hb
  omega

/-- A block that was read in front of something is read without it. -/
theorem all_source {b : ToggleBlock} {post : Text} (hread : read? (b.source ++ post) = some b) :
    all b.source = [⟨b, ⟨0, Text.width b.source⟩⟩] := by
  obtain ⟨hname, -, hfirst⟩ := read?_eq_some_iff.mp hread
  exact Scan.items_source lawful (read?_eq_some_iff.mpr ⟨hname, List.prefix_refl _, fun v hv ↦
    hfirst v (hv.trans (List.prefix_append _ _))⟩)

end ToggleBlock

namespace Declaration

/-! ### What one place declares -/

theorem collapse_singleton {d : Declaration} (hd : d.IsSingle) : collapse [d] = [d] := by
  have hself : sameControl d d = true := sameControl_iff.mpr rfl
  have hplace : { d with occurrences := [d.span] } = d := by
    rw [← hd.occurrences_eq]
    cases d
    rfl
  simp only [collapse, firsts, List.filter_nil, List.map_cons, List.map_nil, List.filter_cons,
    hself, if_true, List.flatMap_cons, List.flatMap_nil, hd.spans_eq, List.append_nil, hplace]

/-- A flat directive declares its control and nothing else. -/
theorem ofText_directive_source {d : Directive} {w : Declaration} (hvalid : d.Valid)
    (hw : ofDirective? ⟨d, ⟨0, Text.width d.source⟩⟩ = some w) : ofText d.source = [w] := by
  obtain ⟨hsingle, -, hkind, -, -⟩ := of_ofDirective?_eq_some hw
  have hknown := Directive.known_source hvalid (hkind ▸ rfl : d.kind?.isSome = true)
  have hblocks := ToggleBlock.all_directive_source hvalid
  have houtside : outside d.source = [w] := by
    simp only [outside, directivesOutside, hblocks, hknown, List.any_nil, Bool.not_false,
      List.filter_true, List.filterMap_cons, hw, List.filterMap_nil]
  have htoggles : toggles d.source = [] := by
    rw [toggles, hblocks]
    rfl
  rw [ofText, htoggles, houtside, List.nil_append, collapse_singleton hsingle]
  rfl

/-- What a block declares with the controls of its body. -/
def ofWholeBlock (b : Placed ToggleBlock) : Declaration :=
  { ofBlock b with nested := collapse (inside b) }

/-- The declaration of a block on its own moves with the block. -/
theorem ofWholeBlock_shift (b : Placed ToggleBlock) (offset : Nat) :
    ofWholeBlock (b.shift offset) = (ofWholeBlock b).shift offset := by
  rw [shift_eq, ofWholeBlock, ofWholeBlock, inside_shift, collapse_shift]
  rfl

/-- A block declares its toggle with the controls of its body and nothing else. -/
theorem ofText_block_source {b : ToggleBlock}
    (hb : ToggleBlock.all b.source = [⟨b, ⟨0, Text.width b.source⟩⟩]) :
    ofText b.source = [ofWholeBlock ⟨b, ⟨0, Text.width b.source⟩⟩] := by
  have houtside : outside b.source = [] := by
    refine List.eq_nil_iff_forall_not_mem.mpr fun d hd ↦ ?_
    have hapart := apart_of_mem_outside (hb ▸ List.mem_singleton_self _) hd
    have hlt := (fits_of_mem_outside hd).start_lt_stop
    have hle := (fits_of_mem_outside hd).stop_le_width
    unfold Span.Apart at hapart
    dsimp only at hapart
    omega
  have hself : [(⟨b, ⟨0, Text.width b.source⟩⟩ : Placed ToggleBlock)].filter
      (·.item.name == b.name) = [⟨b, ⟨0, Text.width b.source⟩⟩] := by
    simp only [List.filter_cons, beq_self_eq_true, if_true, List.filter_nil]
  rw [ofText, houtside, toggles, hb, List.map_singleton, collapse_singleton (isSingle_ofBlock _),
    List.map_singleton]
  dsimp only [ofBlock, single]
  rw [hself, List.flatMap_singleton]
  rfl

variable {t : Text}

/-- The source of a flat control that is written in a text declares the control, further left. -/
theorem exists_alone_of_mem_flats {w : Declaration} (hw : w ∈ flats t) :
    ∃ m alone, w.span.slice? t = some m ∧ ofText m = [alone] ∧ alone.span = ⟨0, Text.width m⟩ ∧
      alone.nested = [] ∧ alone.shift w.span.start = w := by
  obtain ⟨p, hp, hpw, -⟩ := mem_flats_iff_mem_known.mp hw
  obtain ⟨⟨hvalid, -⟩, hslice, -⟩ := Directive.mem_known_iff.mp hp
  have hspan := (of_ofDirective?_eq_some hpw).2.2.2.2
  rw [Placed.eq_shift_of_slice? hslice, ofDirective?_shift] at hpw
  obtain ⟨alone, halone, hshift⟩ := Option.map_eq_some_iff.mp hpw
  obtain ⟨hsingle, -, -, -, hwhole⟩ := of_ofDirective?_eq_some halone
  exact ⟨p.item.source, alone, hspan ▸ hslice, ofText_directive_source hvalid halone, hwhole,
    hsingle.nested_eq, hspan ▸ hshift⟩

/-- The source of a block of a text declares the toggle with the controls of the body, further
left. -/
theorem exists_alone_of_mem_all {b : Placed ToggleBlock} (hb : b ∈ ToggleBlock.all t) :
    ∃ m alone, b.span.slice? t = some m ∧ ofText m = [alone] ∧ alone.span = ⟨0, Text.width m⟩ ∧
      alone.shift b.span.start = ofWholeBlock b := by
  obtain ⟨pre, post, -, -, hread⟩ := (Scan.run_items ToggleBlock.lawful t).exists_append_of_mem hb
  have hslice := ToggleBlock.slice?_of_mem_all hb
  refine ⟨b.item.source, _, hslice, ofText_block_source (ToggleBlock.all_source hread), rfl, ?_⟩
  rw [← ofWholeBlock_shift, ← Placed.eq_shift_of_slice? hslice]

/-- What is written at a place declares, on its own, the control that is written there. -/
theorem exists_alone_of_mem_written {w : Declaration} (hw : w ∈ written t) :
    ∃ m alone, w.span.slice? t = some m ∧ ofText m = [alone] ∧ alone.span = ⟨0, Text.width m⟩ ∧
      alone.key = w.key ∧ alone.payload = w.payload ∧
        ((w.kind ≠ .toggle ∧ alone.nested = []) ∨ ∃ b ∈ ToggleBlock.all t, w = ofBlock b ∧
          alone.nested.map (shift b.span.start) = collapse (inside b)) := by
  rcases List.mem_append.mp hw with hw | hw
  · obtain ⟨b, hb, rfl⟩ := List.mem_map.mp hw
    obtain ⟨m, alone, hslice, halone, hspan, hshift⟩ := exists_alone_of_mem_all hb
    refine ⟨m, alone, hslice, halone, hspan, ?_, ?_, Or.inr ⟨b, hb, rfl, ?_⟩⟩
    · rw [← key_shift b.span.start alone, hshift]
      rfl
    · rw [← payload_shift b.span.start alone, hshift]
      rfl
    · rw [← nested_shift, hshift]
      rfl
  · obtain ⟨m, alone, hslice, halone, hspan, hnested, hshift⟩ := exists_alone_of_mem_flats hw
    refine ⟨m, alone, hslice, halone, hspan, ?_, ?_, Or.inl ⟨isFlat_of_mem_flats hw, hnested⟩⟩
    · rw [← key_shift w.span.start alone, hshift]
    · rw [← payload_shift w.span.start alone, hshift]

/-! ### What a place means -/

/-- Whether a declaration that a text `m` makes on its own means what a declaration `d` of a whole
text means at one of its places, which `m` is cut from. A block on its own declares the controls of
its body, and the whole text lists them among those of all blocks of the name. -/
structure MeansTheSame (t : Text) (d : Declaration) (s : Span) (m : Text)
    (alone : Declaration) : Prop where
  slice : s.slice? t = some m
  ofText_eq : ofText m = [alone]
  key_eq : alone.key = d.key
  span_eq : alone.span = ⟨0, Text.width m⟩
  payload_eq : s = d.span → alone.payload = d.payload
  nested_eq : d.kind = .toggle → ∃ b ∈ ToggleBlock.all t, b.span = s ∧
    alone.nested.map (shift s.start) = collapse (inside b)
  nested_listed : ∀ n ∈ alone.nested, ∀ r ∈ n.span :: n.occurrences,
    ∃ own ∈ d.nested, own.key = n.key ∧ r.shift s.start ∈ own.occurrences

variable {d : Declaration}

/-- A place of a declaration is where its control is written, and at its first place stands what it
states. -/
theorem exists_written_of_mem_occurrences (hd : d ∈ flatten (ofText t)) {s : Span}
    (hs : s ∈ d.occurrences) :
    ∃ w ∈ written t, w.key = d.key ∧ w.span = s ∧ (s = d.span → w.payload = d.payload) := by
  by_cases hfirst : s = d.span
  · obtain ⟨w, hw, hkey, hpayload, hspan⟩ := exists_written_of_mem_flatten hd
    exact ⟨w, hw, hkey, hspan.trans hfirst.symm, fun _ ↦ hpayload⟩
  · have hspans : s ∈ d.spans := by rwa [spans_of_mem_flatten hd]
    obtain ⟨w, hw, hkey, hspan⟩ := exists_mem_spans_flatten_iff.mp ⟨d, hd, rfl, hspans⟩
    exact ⟨w, hw, hkey, hspan, fun h ↦ absurd h hfirst⟩

/-- A control in the body of a block is listed under the toggle of its name, with its places. -/
theorem exists_mem_nested_of_mem_inside (hd : d ∈ toggles t) {b : Placed ToggleBlock}
    (hb : b ∈ blocksNamed t d.name) {n : Declaration} (hn : n ∈ collapse (inside b)) {r : Span}
    (hr : r ∈ n.span :: n.occurrences) :
    ∃ own ∈ d.nested, own.key = n.key ∧ r ∈ own.occurrences := by
  have hsingle : ∀ e ∈ inside b, e.IsSingle := fun e he ↦ (isFlat_of_mem_filterMap he).1
  have hstart : (inside b).Pairwise fun c d ↦ c.span.start < d.span.start :=
    (List.pairwise_flatMap.mp (pairwise_start_blocksNamed d.name)).1 b hb
  obtain ⟨hhead, -, hmem⟩ := occurrences_of_mem_collapse hsingle hstart hn
  have hr' : r ∈ n.occurrences := by
    rcases List.mem_cons.mp hr with rfl | hr
    · exact List.mem_of_head? hhead
    · exact hr
  obtain ⟨e, he, hkey, rfl⟩ := (hmem r).mp hr'
  have hall : e ∈ (blocksNamed t d.name).flatMap inside := List.mem_flatMap.mpr ⟨b, hb, he⟩
  have hspan : e.span ∈ e.spans := by
    rw [(hsingle e he).spans_eq]
    exact List.mem_singleton_self _
  obtain ⟨own, hown, hownKey⟩ := exists_mem_collapse hall
  rw [nested_of_mem_toggles hd]
  exact ⟨own, hown, hownKey.trans hkey,
    (mem_occurrences_iff_of_mem_collapse hown).mpr ⟨e, hall, hownKey.symm, hspan⟩⟩

/-- Each place of a declaration means its control when it is a text of its own. -/
theorem meansTheSame_of_mem_occurrences (hd : d ∈ flatten (ofText t)) {s : Span}
    (hs : s ∈ d.occurrences) : ∃ m alone, MeansTheSame t d s m alone := by
  obtain ⟨w, hw, hkey, rfl, hpayload⟩ := exists_written_of_mem_occurrences hd hs
  obtain ⟨m, alone, hslice, halone, hspan, hkey', hpayload', hnested⟩ :=
    exists_alone_of_mem_written hw
  have hkind : w.kind = d.kind := congrArg Prod.fst hkey
  refine ⟨m, alone, hslice, halone, hkey'.trans hkey, hspan,
    fun h ↦ hpayload'.trans (hpayload h), fun htoggle ↦ ?_, fun n hn r hr ↦ ?_⟩
  · rcases hnested with ⟨hflat, -⟩ | ⟨b, hb, rfl, hmap⟩
    · exact absurd (hkind.trans htoggle) hflat
    · exact ⟨b, hb, rfl, hmap⟩
  · rcases hnested with ⟨-, hnil⟩ | ⟨b, hb, rfl, hmap⟩
    · exact absurd (hnil ▸ hn) List.not_mem_nil
    · have hnamed : b ∈ blocksNamed t d.name :=
        List.mem_filter.mpr ⟨hb, beq_iff_eq.mpr (congrArg Prod.snd hkey)⟩
      have hn' : n.shift b.span.start ∈ collapse (inside b) := hmap ▸ List.mem_map_of_mem hn
      have hr' : r.shift b.span.start ∈
          (n.shift b.span.start).span :: (n.shift b.span.start).occurrences := by
        rw [span_shift, occurrences_shift]
        exact List.mem_map_of_mem (f := (·.shift b.span.start)) hr
      obtain ⟨own, hown, hownKey, hmem⟩ :=
        exists_mem_nested_of_mem_inside (mem_toggles_of_kind_eq hd hkind.symm) hnamed hn' hr'
      exact ⟨own, hown, hownKey.trans (key_shift _ n), hmem⟩

/-- Two blocks of one name, with a control in each. -/
def twoBlocks : Text :=
  "{{toggle:T}}é{{text:A:x}}{{/toggle:T}}{{toggle: T}}{{text:B}}{{/toggle: T}}".toList

theorem meansTheSame_of_mem_occurrences_secondBlock :
    ∃ d ∈ flatten (ofText twoBlocks), (⟨39, 76⟩ : Span) ∈ d.occurrences ∧ d.span = ⟨0, 39⟩ ∧
      ∃ m alone, MeansTheSame twoBlocks d ⟨39, 76⟩ m alone :=
  ⟨(flatten (ofText twoBlocks)).head (by decide), List.head_mem _, by decide, by decide,
    meansTheSame_of_mem_occurrences (List.head_mem _) (by decide)⟩

end Declaration

end PromptTemplate
