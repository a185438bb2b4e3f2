import PromptTemplate.Declaration.OfText
import PromptTemplate.Proofs.DeclarationCollapse
import PromptTemplate.Proofs.ToggleGrammar

/-!
What a text declares place by place, before declarations of one control are collapsed: the blocks,
the flat controls outside of all blocks and the flat controls inside of each. Each of them is
written at one place, the places of each sort come in the order of the text and share no byte, and
no place crosses the edge of a block (`apart_of_mem_outside`, `within_of_mem_inside`).
-/

set_option autoImplicit false
set_option relaxedAutoImplicit false

namespace PromptTemplate.Declaration

/-- The flat control that a directive declares, at its place. A toggle tag declares none. -/
def flatSite? (p : Placed Directive) : Option Site :=
  match p.item.kind? with
  | none => none
  | some .toggle => none
  | some kind => some ((kind, p.item.name), p.span)

/-- The toggle that a block declares, at its place. -/
def blockSite (b : Placed ToggleBlock) : Site := ((.toggle, b.item.name), b.span)

/-! ### What is read off one place -/

/-- A flat declaration has the kind, the name and the place of its directive. -/
theorem of_ofDirective?_eq_some {p : Placed Directive} {d : Declaration}
    (h : ofDirective? p = some d) : d.IsSingle ∧ d.kind ≠ .toggle ∧
      p.item.kind? = some d.kind ∧ d.name = p.item.name ∧ d.span = p.span := by
  obtain ⟨kind, hkind, h⟩ := Option.bind_eq_some_iff.mp h
  cases kind with
  | toggle => simp at h
  | text =>
    obtain rfl := Option.some.inj h
    exact ⟨⟨rfl, rfl⟩, by simp [single], hkind, rfl, rfl⟩
  | select =>
    obtain rfl := Option.some.inj h
    exact ⟨⟨rfl, rfl⟩, by simp [single], hkind, rfl, rfl⟩
  | slider =>
    obtain rfl := Option.some.inj h
    exact ⟨⟨rfl, rfl⟩, by simp [single], hkind, rfl, rfl⟩

/-- A directive of a flat kind declares a control. -/
theorem exists_ofDirective?_eq_some {p : Placed Directive} {kind : Kind}
    (hkind : p.item.kind? = some kind) (hflat : kind ≠ .toggle) :
    ∃ d, ofDirective? p = some d := by
  rw [ofDirective?, hkind, Option.bind_some]
  cases kind with
  | toggle => exact absurd rfl hflat
  | text => exact ⟨_, rfl⟩
  | select => exact ⟨_, rfl⟩
  | slider => exact ⟨_, rfl⟩

/-- A directive declares its control at its place. -/
theorem map_site_ofDirective? (p : Placed Directive) :
    (ofDirective? p).map (fun d ↦ (d.key, d.span)) = flatSite? p := by
  unfold ofDirective? flatSite?
  cases p.item.kind? with
  | none => rfl
  | some kind => cases kind <;> rfl

theorem isSingle_ofBlock (b : Placed ToggleBlock) : (ofBlock b).IsSingle := ⟨rfl, rfl⟩

/-- What is read off directives are flat controls at one place each. -/
theorem isFlat_of_mem_filterMap {ps : List (Placed Directive)} {d : Declaration}
    (hd : d ∈ ps.filterMap ofDirective?) : d.IsSingle ∧ d.kind ≠ .toggle := by
  obtain ⟨p, -, hp⟩ := List.mem_filterMap.mp hd
  obtain ⟨hsingle, hkind, -⟩ := of_ofDirective?_eq_some hp
  exact ⟨hsingle, hkind⟩

theorem isFlat_of_mem_outside {t : Text} {d : Declaration} (hd : d ∈ outside t) :
    d.IsSingle ∧ d.kind ≠ .toggle :=
  isFlat_of_mem_filterMap hd

theorem isFlat_of_mem_inside {bs : List (Placed ToggleBlock)} {d : Declaration}
    (hd : d ∈ bs.flatMap inside) : d.IsSingle ∧ d.kind ≠ .toggle := by
  obtain ⟨b, -, hd⟩ := List.mem_flatMap.mp hd
  exact isFlat_of_mem_filterMap hd

/-- Declarations at one place each are listed with these places. -/
theorem flatMap_spans_of_isSingle {ds : List Declaration} (h : ∀ d ∈ ds, d.IsSingle) :
    (ds.flatMap fun d ↦ d.spans.map fun s ↦ (d.key, s)) = ds.map fun d ↦ (d.key, d.span) := by
  rw [List.map_eq_flatMap]
  apply List.flatMap_congr
  intro d hd
  rw [(h d hd).spans_eq]
  rfl

/-- The controls outside of the blocks stand where their directives stand. -/
theorem map_site_outside (t : Text) :
    (outside t).map (fun d ↦ (d.key, d.span)) = (directivesOutside t).filterMap flatSite? := by
  rw [outside, List.map_filterMap]
  simp only [map_site_ofDirective?]

theorem map_site_inside (b : Placed ToggleBlock) :
    (inside b).map (fun d ↦ (d.key, d.span)) = (directivesInside b).filterMap flatSite? := by
  rw [inside, List.map_filterMap]
  simp only [map_site_ofDirective?]

/-! ### The places and the blocks -/

section Places

variable (t : Text)

/-- The controls outside of the blocks end one before the other. -/
theorem pairwise_outside : (outside t).Pairwise fun c d ↦ c.span.stop ≤ d.span.start := by
  refine List.pairwise_filterMap.mpr (List.Pairwise.imp ?_
    ((Scan.pairwise_items Directive.lawful_known t).filter _))
  intro p q hpq c hc d hd
  rw [(of_ofDirective?_eq_some hc).2.2.2.2, (of_ofDirective?_eq_some hd).2.2.2.2]
  exact hpq

theorem pairwise_ofBlock :
    ((ToggleBlock.all t).map ofBlock).Pairwise fun c d ↦ c.span.stop ≤ d.span.start :=
  List.pairwise_map.mpr (Scan.pairwise_items ToggleBlock.lawful t)

theorem pairwise_inside (b : Placed ToggleBlock) :
    (inside b).Pairwise fun c d ↦ c.span.stop ≤ d.span.start := by
  refine List.pairwise_filterMap.mpr (List.pairwise_map.mpr (List.Pairwise.imp ?_
    (Scan.pairwise_items Directive.lawful_known b.item.body)))
  intro p q hpq c hc d hd
  rw [(of_ofDirective?_eq_some hc).2.2.2.2, (of_ofDirective?_eq_some hd).2.2.2.2]
  exact Nat.add_le_add_right hpq _

variable {t}

theorem fits_of_mem_all {b : Placed ToggleBlock} (hb : b ∈ ToggleBlock.all t) :
    b.span.Fits t := Scan.fits_of_mem_items ToggleBlock.lawful t hb

theorem fits_of_mem_outside {d : Declaration} (hd : d ∈ outside t) : d.span.Fits t := by
  obtain ⟨p, hp, hpd⟩ := List.mem_filterMap.mp hd
  rw [(of_ofDirective?_eq_some hpd).2.2.2.2]
  exact Scan.fits_of_mem_items Directive.lawful_known t (List.mem_of_mem_filter hp)

/-- A flat control outside of the blocks shares no byte with one. -/
theorem apart_of_mem_outside {b : Placed ToggleBlock} (hb : b ∈ ToggleBlock.all t)
    {d : Declaration} (hd : d ∈ outside t) : b.span.Apart d.span := by
  obtain ⟨p, hp, hpd⟩ := List.mem_filterMap.mp hd
  have hnone := List.of_mem_filter hp
  rw [Bool.not_eq_true', List.any_eq_false] at hnone
  rw [(of_ofDirective?_eq_some hpd).2.2.2.2, Span.apart_iff_overlaps_eq_false]
  exact Bool.eq_false_iff.mpr (hnone b hb)

/-- A flat control inside of a block lies in its body. -/
theorem within_of_mem_inside {b : Placed ToggleBlock} (hb : b ∈ ToggleBlock.all t)
    {d : Declaration} (hd : d ∈ inside b) : d.span.Fits t ∧
      (ToggleBlock.bodySpan b).start ≤ d.span.start ∧
        d.span.stop ≤ (ToggleBlock.bodySpan b).stop := by
  obtain ⟨q, hq, hqd⟩ := List.mem_filterMap.mp hd
  obtain ⟨p, hp, rfl⟩ := List.mem_map.mp hq
  have hslice := Scan.slice?_of_mem_items Directive.lawful_known b.item.body hp
  obtain ⟨hshift, hstart, hstop⟩ :=
    Span.slice?_shift (ToggleBlock.bodySpan_slice? hb) hslice
  rw [(of_ofDirective?_eq_some hqd).2.2.2.2]
  exact ⟨Span.fits_of_slice?_eq_some hshift (Directive.source_ne_nil _), hstart, hstop⟩

/-- The flat controls inside of several blocks come in the order of the text. -/
theorem pairwise_flatMap_inside {bs : List (Placed ToggleBlock)}
    (hbs : bs.Sublist (ToggleBlock.all t)) :
    (bs.flatMap inside).Pairwise fun c d ↦ c.span.stop ≤ d.span.start := by
  refine List.pairwise_flatMap.mpr ⟨fun b _ ↦ pairwise_inside b, ?_⟩
  have hpairwise := (Scan.pairwise_items ToggleBlock.lawful t).sublist hbs
  refine hpairwise.imp_of_mem fun {b b'} hb hb' hstop c hc d hd ↦ ?_
  obtain ⟨-, -, hc⟩ := within_of_mem_inside (hbs.subset hb) hc
  obtain ⟨-, hd, -⟩ := within_of_mem_inside (hbs.subset hb') hd
  obtain ⟨-, -, hclose⟩ := ToggleBlock.bodySpan_within (hbs.subset hb)
  obtain ⟨hopen, -, -⟩ := ToggleBlock.bodySpan_within (hbs.subset hb')
  omega

end Places

/-! ### Everything that is written -/

/-- The flat controls of a text, outside of the blocks and inside of each. -/
def flats (t : Text) : List Declaration := outside t ++ (ToggleBlock.all t).flatMap inside

/-- Everything that a text declares, place by place. -/
def written (t : Text) : List Declaration := (ToggleBlock.all t).map ofBlock ++ flats t

/-- A flat declaration stands outside of the blocks or in the body of one. -/
theorem mem_flats_iff {t : Text} {d : Declaration} :
    d ∈ flats t ↔ d ∈ outside t ∨ ∃ b ∈ ToggleBlock.all t, d ∈ inside b := by
  rw [flats, List.mem_append, List.mem_flatMap]

theorem isFlat_of_mem_flats {t : Text} {d : Declaration} (hd : d ∈ flats t) :
    d.kind ≠ .toggle := by
  rcases List.mem_append.mp hd with hd | hd
  · exact (isFlat_of_mem_outside hd).2
  · exact (isFlat_of_mem_inside hd).2

theorem fits_of_mem_flats {t : Text} {d : Declaration} (hd : d ∈ flats t) : d.span.Fits t := by
  rcases mem_flats_iff.mp hd with hd | ⟨b, hb, hd⟩
  · exact fits_of_mem_outside hd
  · exact (within_of_mem_inside hb hd).1

/-- A place inside of a block and one outside of all blocks are apart. -/
theorem apart_of_mem_inside_of_mem_outside {t : Text} {b : Placed ToggleBlock}
    (hb : b ∈ ToggleBlock.all t) {c d : Declaration} (hc : c ∈ inside b) (hd : d ∈ outside t) :
    c.span.Apart d.span := by
  obtain ⟨-, hstart, hstop⟩ := within_of_mem_inside hb hc
  obtain ⟨hopening, -, hclosing⟩ := ToggleBlock.bodySpan_within hb
  rcases apart_of_mem_outside hb hd with h | h
  · exact Or.inl (by omega)
  · exact Or.inr (by omega)

/-- Any two flat controls that are written are the same one or share no byte. -/
theorem eq_or_apart_of_mem_flats {t : Text} {c d : Declaration} (hc : c ∈ flats t)
    (hd : d ∈ flats t) : c = d ∨ c.span.Apart d.span := by
  rcases mem_flats_iff.mp hc with hc | ⟨b, hb, hcb⟩
  · rcases mem_flats_iff.mp hd with hd | ⟨b, hb, hdb⟩
    · exact Span.eq_or_apart_of_pairwise (pairwise_outside t) hc hd
    · exact Or.inr (apart_of_mem_inside_of_mem_outside hb hdb hc).symm
  · rcases mem_flats_iff.mp hd with hd | ⟨b', hb', hdb⟩
    · exact Or.inr (apart_of_mem_inside_of_mem_outside hb hcb hd)
    · exact Span.eq_or_apart_of_pairwise (pairwise_flatMap_inside (List.Sublist.refl _))
        (List.mem_flatMap.mpr ⟨b, hb, hcb⟩) (List.mem_flatMap.mpr ⟨b', hb', hdb⟩)

theorem mem_flats_of_mem_written {t : Text} {w : Declaration} (hw : w ∈ written t)
    (hkind : w.kind ≠ .toggle) : w ∈ flats t := by
  rcases List.mem_append.mp hw with hw | hw
  · obtain ⟨b, -, rfl⟩ := List.mem_map.mp hw
    exact absurd rfl hkind
  · exact hw

/-- A toggle is declared by a block. -/
theorem exists_block_of_mem_written {t : Text} {w : Declaration} (hw : w ∈ written t)
    (hkind : w.kind = .toggle) : ∃ b ∈ ToggleBlock.all t, w = ofBlock b := by
  rcases List.mem_append.mp hw with hw | hw
  · obtain ⟨b, hb, rfl⟩ := List.mem_map.mp hw
    exact ⟨b, hb, rfl⟩
  · exact absurd hkind (isFlat_of_mem_flats hw)

/-- Flat controls that start together are the same. -/
theorem eq_of_mem_flats_of_start_eq {t : Text} {c d : Declaration} (hc : c ∈ flats t)
    (hd : d ∈ flats t) (hstart : c.span.start = d.span.start) : c = d := by
  rcases eq_or_apart_of_mem_flats hc hd with heq | hapart
  · exact heq
  · exact absurd hstart
      (hapart.start_ne (fits_of_mem_flats hc).start_lt_stop (fits_of_mem_flats hd).start_lt_stop)

end PromptTemplate.Declaration
