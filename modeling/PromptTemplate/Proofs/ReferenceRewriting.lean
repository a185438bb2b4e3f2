import Mathlib.Data.List.MinMax
import PromptTemplate.Proofs.DistinctControls
import PromptTemplate.Proofs.RenderingSteps

/-!
What a rendering writes, said without declarations, edits of bodies or a splice: the text is read
once from left to right, a flat control gives way to its filling and a block to its body, read the
same way, or to nothing (`rewritten`). Rendering a text with its own declarations writes this.

Both sides make the same edits: what is filled in is the same at every place (`filling_eq_written`),
a block is edited as it is read (`resolution?_eq`), and all edits are apart (`separate_rewrites`).
-/

set_option autoImplicit false
set_option relaxedAutoImplicit false

namespace PromptTemplate.Rendering

open Declaration

/-! ### The reference -/

section Reference

variable (t : Text) (values : ValueMap)

/-- The default of the earliest flat control of a text that is of the kind and name of another. -/
def defaultOf (d : Declaration) : Text :=
  match ((flats t).filter (sameControl d)).argmin (·.span.start) with
  | some first => first.defaultValue
  | none => []

/-- What stands for a flat control: its value, or its default where it has none. -/
def filling (d : Declaration) : Text :=
  match values.get? d.name with
  | some value => value.display
  | none => defaultOf t d

/-- The place of a flat control with what stands for it. -/
def flatRewrite (d : Declaration) : Edit := ⟨d.span, filling t values d⟩

/-- What stands for a block: its body with the flat controls in it rewritten if its name has a
truthy value, and nothing otherwise. -/
def blockFilling (b : Placed ToggleBlock) : Text :=
  match values.get? b.item.name with
  | some value =>
    if value.isTruthy then
      Edit.readThrough ((inside b).map (flatRewrite t values)) (ToggleBlock.bodySpan b).start 0
        b.item.body
    else []
  | none => []

/-- The place of a block with what stands for it. -/
def blockRewrite (b : Placed ToggleBlock) : Edit := ⟨b.span, blockFilling t values b⟩

/-- Everything that is rewritten in a text: its blocks and the flat controls outside of them. -/
def rewrites : List Edit :=
  (ToggleBlock.all t).map (blockRewrite t values) ++ (outside t).map (flatRewrite t values)

/-- The text read from left to right with its blocks and flat controls rewritten. What is written
for them is not read again. -/
def rewritten : Text := Edit.readThrough (rewrites t values) 0 0 t

end Reference

variable {t : Text} {values : ValueMap}

/-! ### What stands for a control -/

/-- The declaration that carries what is earliest has the default of the earliest control. -/
theorem defaultOf_eq {c w : Declaration} (hc : CarriesEarliest c (Declaration.written t))
    (hw : w ∈ flats t) (hkey : w.key = c.key) : defaultOf t w = c.defaultValue := by
  obtain ⟨first, hfirst, hfirstKey, hpayload, -, hle⟩ := hc
  have hkind : first.kind = w.kind := (Prod.mk.inj (hfirstKey.trans hkey.symm)).1
  have hfirstFlat : first ∈ flats t :=
    mem_flats_of_mem_written hfirst (hkind ▸ isFlat_of_mem_flats hw)
  have hfirstMem : first ∈ (flats t).filter (sameControl w) :=
    List.mem_filter.mpr ⟨hfirstFlat, sameControl_iff.mpr (hkey.trans hfirstKey.symm)⟩
  have hdefault : first.defaultValue = c.defaultValue := (Prod.mk.inj hpayload).1
  cases hmin : ((flats t).filter (sameControl w)).argmin (·.span.start) with
  | none => exact absurd (List.argmin_eq_none.mp hmin) (List.ne_nil_of_mem hfirstMem)
  | some least =>
    obtain ⟨hleast, hsame⟩ := List.mem_filter.mp (List.argmin_mem hmin)
    have hleastKey : least.key = c.key := (sameControl_iff.mp hsame).symm.trans hkey
    have hleastLe : least.span.start ≤ first.span.start :=
      List.le_of_mem_argmin (f := fun d : Declaration ↦ d.span.start) hfirstMem hmin
    have hstart : first.span.start = least.span.start :=
      Nat.le_antisymm (hle least (List.mem_append_right _ hleast) hleastKey) hleastLe
    rw [defaultOf, hmin, ← hdefault, eq_of_mem_flats_of_start_eq hfirstFlat hleast hstart]

/-- The filling of a place is what is written for its control. -/
theorem filling_eq_written {c w : Declaration} (hc : c ∈ distinct (ofText t)) (hw : w ∈ flats t)
    (hkey : w.key = c.key) : filling t values w = written values c := by
  have hname : w.name = c.name := (Prod.mk.inj hkey).2
  unfold filling written
  rw [hname]
  cases values.get? c.name with
  | some value => rfl
  | none => exact defaultOf_eq (carriesEarliest_distinct_ofText hc) hw hkey

/-- The fills of a text are the rewrites of its flat controls. -/
theorem mem_fills_ofText_iff {e : Edit} : e ∈ fills values (distinct (ofText t)) ↔
    ∃ w ∈ flats t, flatRewrite t values w = e := by
  rw [mem_fills_iff]
  constructor
  · rintro ⟨c, hc, hkind, hspan, hreplacement⟩
    obtain ⟨w, hw, hkey, hwspan⟩ := (mem_spans_distinct_ofText hc).mp hspan
    have hwkind : w.kind = c.kind := (Prod.mk.inj hkey).1
    have hflat : w ∈ flats t := mem_flats_of_mem_written hw (hwkind ▸ hkind)
    exact ⟨w, hflat, by rw [flatRewrite, hwspan, filling_eq_written hc hflat hkey, ← hreplacement]⟩
  · rintro ⟨w, hw, rfl⟩
    have hwritten : w ∈ Declaration.written t := List.mem_append_right _ hw
    obtain ⟨c, hc, hkey⟩ := exists_mem_distinct_ofText hwritten
    have hkind : c.kind = w.kind := (Prod.mk.inj hkey).1
    exact ⟨c, hc, hkind ▸ isFlat_of_mem_flats hw,
      (mem_spans_distinct_ofText hc).mpr ⟨w, hwritten, hkey.symm, rfl⟩,
      filling_eq_written hc hw hkey.symm⟩

/-- The blocks of a text are those that are found in it, kept by their names. -/
theorem mem_blocks_ofText_iff {block : Span × Bool} :
    block ∈ blocks values (distinct (ofText t)) ↔
      ∃ b ∈ ToggleBlock.all t, (b.span, keeps values (ofBlock b)) = block := by
  have hkeeps : ∀ {c d : Declaration}, c.key = d.key → keeps values c = keeps values d := by
    intro c d hkey
    have hname : c.name = d.name := (Prod.mk.inj hkey).2
    unfold keeps
    rw [hname]
  rw [mem_blocks_iff]
  constructor
  · rintro ⟨c, hc, hkind, hspan, hkept⟩
    obtain ⟨w, hw, hkey, hwspan⟩ := (mem_spans_distinct_ofText hc).mp hspan
    have hwkind : w.kind = c.kind := (Prod.mk.inj hkey).1
    obtain ⟨b, hb, rfl⟩ := exists_block_of_mem_written hw (hwkind.trans hkind)
    exact ⟨b, hb, Prod.ext hwspan ((hkeeps hkey).trans hkept.symm)⟩
  · rintro ⟨b, hb, rfl⟩
    have hwritten : ofBlock b ∈ Declaration.written t :=
      List.mem_append_left _ (List.mem_map.mpr ⟨b, hb, rfl⟩)
    obtain ⟨c, hc, hkey⟩ := exists_mem_distinct_ofText hwritten
    have hkind : c.kind = .toggle := (Prod.mk.inj hkey).1
    exact ⟨c, hc, hkind, (mem_spans_distinct_ofText hc).mpr ⟨_, hwritten, hkey.symm, rfl⟩,
      hkeeps hkey.symm⟩

/-! ### Rewrites are apart -/

/-- A rewrite is that of a block or that of a control outside of the blocks. -/
theorem mem_rewrites_iff {e : Edit} : e ∈ rewrites t values ↔
    (∃ b ∈ ToggleBlock.all t, blockRewrite t values b = e) ∨
      ∃ w ∈ outside t, flatRewrite t values w = e := by
  rw [rewrites, List.mem_append, List.mem_map, List.mem_map]

/-- The rewrites of a text share no byte. -/
theorem separate_rewrites : Edit.Separate t (rewrites t values) where
  fits e he := by
    rcases mem_rewrites_iff.mp he with ⟨b, hb, rfl⟩ | ⟨w, hw, rfl⟩
    · exact fits_of_mem_all hb
    · exact fits_of_mem_outside hw
  eq_or_apart e he e' he' := by
    rcases mem_rewrites_iff.mp he with ⟨b, hb, rfl⟩ | ⟨w, hw, rfl⟩
    · rcases mem_rewrites_iff.mp he' with ⟨b', hb', rfl⟩ | ⟨w', hw', rfl⟩
      · exact (Scan.eq_or_apart_of_mem_items ToggleBlock.lawful t hb hb').imp_left
          (congrArg (blockRewrite t values))
      · exact Or.inr (apart_of_mem_outside hb hw')
    · rcases mem_rewrites_iff.mp he' with ⟨b', hb', rfl⟩ | ⟨w', hw', rfl⟩
      · exact Or.inr (apart_of_mem_outside hb' hw).symm
      · exact (Span.eq_or_apart_of_pairwise (pairwise_outside t) hw hw').imp_left
          (congrArg (flatRewrite t values))

theorem separate_fills_ofText : Edit.Separate t (fills values (distinct (ofText t))) where
  fits e he := by
    obtain ⟨w, hw, rfl⟩ := mem_fills_ofText_iff.mp he
    exact fits_of_mem_flats hw
  eq_or_apart e he e' he' := by
    obtain ⟨w, hw, rfl⟩ := mem_fills_ofText_iff.mp he
    obtain ⟨w', hw', rfl⟩ := mem_fills_ofText_iff.mp he'
    exact (eq_or_apart_of_mem_flats hw hw').imp_left (congrArg (flatRewrite t values))

/-! ### The edit of a block -/

section Block

variable {b : Placed ToggleBlock} (hb : b ∈ ToggleBlock.all t)
include hb

/-- A flat control that lies in the body of a block is written inside of this block. -/
theorem mem_inside_iff {w : Declaration} :
    w ∈ inside b ↔ w ∈ flats t ∧ (ToggleBlock.bodySpan b).contains w.span = true := by
  simp only [Span.contains, Bool.and_eq_true, decide_eq_true_eq]
  constructor
  · intro hw
    exact ⟨mem_flats_iff.mpr (Or.inr ⟨b, hb, hw⟩), (within_of_mem_inside hb hw).2⟩
  · rintro ⟨hw, hstart, hstop⟩
    obtain ⟨hopening, -, hclosing⟩ := ToggleBlock.bodySpan_within hb
    have hlt := (fits_of_mem_flats hw).start_lt_stop
    rcases mem_flats_iff.mp hw with hw | ⟨b', hb', hw⟩
    · rcases apart_of_mem_outside hb hw with hapart | hapart <;> omega
    · obtain ⟨-, hstart', hstop'⟩ := within_of_mem_inside hb' hw
      obtain ⟨hopening', -, hclosing'⟩ := ToggleBlock.bodySpan_within hb'
      rcases Scan.eq_or_apart_of_mem_items ToggleBlock.lawful t hb hb' with rfl | hapart | hapart
      · exact hw
      · omega
      · omega

/-- The fills within the body of a block are the rewrites of the flat controls inside of it. -/
theorem mem_shift_innerFills_iff {e : Edit} :
    e ∈ (innerFills (ToggleBlock.bodySpan b) (fills values (distinct (ofText t)))).map
        (·.shift (ToggleBlock.bodySpan b).start) ↔
      e ∈ (inside b).map (flatRewrite t values) := by
  rw [List.mem_map, List.mem_map]
  constructor
  · rintro ⟨fill, hfill, rfl⟩
    obtain ⟨hmem, hcontains⟩ := mem_innerFills_iff.mp hfill
    obtain ⟨w, hw, heq⟩ := mem_fills_ofText_iff.mp hmem
    have hspan : w.span = fill.span.shift (ToggleBlock.bodySpan b).start :=
      (Edit.mk.inj heq).1
    exact ⟨w, (mem_inside_iff hb).mpr ⟨hw, hspan ▸ hcontains⟩, heq⟩
  · rintro ⟨w, hw, rfl⟩
    obtain ⟨hflat, hcontains⟩ := (mem_inside_iff hb).mp hw
    obtain ⟨-, hstart, -⟩ := within_of_mem_inside hb hw
    have hlt := (fits_of_mem_flats hflat).start_lt_stop
    obtain ⟨s, hs⟩ := Span.exists_shift_eq hstart (by omega : _ ≤ w.span.stop)
    have hshift : Edit.shift ⟨s, filling t values w⟩ (ToggleBlock.bodySpan b).start =
        flatRewrite t values w := by
      rw [Edit.shift, hs, flatRewrite]
    refine ⟨⟨s, filling t values w⟩, mem_innerFills_iff.mpr ⟨?_, ?_⟩, hshift⟩
    · rw [hshift]
      exact mem_fills_ofText_iff.mpr ⟨w, hflat, rfl⟩
    · rwa [hs]

/-- Making the fills within a body is reading it through the rewrites inside of the block. -/
theorem spliced_body_eq_readThrough :
    Edit.spliced b.item.body
        (innerFills (ToggleBlock.bodySpan b) (fills values (distinct (ofText t)))) =
      Edit.readThrough ((inside b).map (flatRewrite t values)) (ToggleBlock.bodySpan b).start 0
        b.item.body := by
  have hseparate : Edit.Separate b.item.body
      (innerFills (ToggleBlock.bodySpan b) (fills values (distinct (ofText t)))) :=
    separate_innerFills (ToggleBlock.bodySpan_slice? hb) separate_fills_ofText
  have hstart : ∀ e ∈ (inside b).map (flatRewrite t values),
      ∀ e' ∈ (inside b).map (flatRewrite t values), e.span.start = e'.span.start → e = e' := by
    intro e he e' he' hee'
    obtain ⟨w, hw, rfl⟩ := List.mem_map.mp he
    obtain ⟨w', hw', rfl⟩ := List.mem_map.mp he'
    rw [eq_of_mem_flats_of_start_eq ((mem_inside_iff hb).mp hw).1 ((mem_inside_iff hb).mp hw').1
      hee']
  rw [Edit.spliced_eq_readThrough hseparate,
    ← Edit.readThrough_shift b.item.body (ToggleBlock.bodySpan b).start,
    ← Edit.readThrough_congr_of_mem_iff (fun e ↦ (mem_shift_innerFills_iff hb).symm) hstart,
    Nat.zero_add]
  exact Edit.readThrough_resume (Nat.le_refl _) (Nat.zero_le _) _

/-- The edit of a block is what it gives way to. -/
theorem resolution?_eq :
    resolution? t (fills values (distinct (ofText t))) (b.span, keeps values (ofBlock b)) =
      some (blockRewrite t values b) := by
  rw [resolution?, ToggleBlock.bodyAt?_of_mem_all hb, Option.map_some,
    ToggleBlock.bodySpan_slice? hb, Option.getD_some, spliced_body_eq_readThrough hb, blockRewrite,
    blockFilling]
  congr 2
  have hname : (ofBlock b).name = b.item.name := rfl
  rw [keeps, hname]
  cases values.get? b.item.name with
  | none => rfl
  | some value => rfl

end Block

/-! ### The rendering of a text -/

/-- The places that are written in a text have their ends in order, so it is always rendered. -/
theorem render_ofText_eq_rendered (t : Text) (values : ValueMap) :
    render t (ofText t) values = .ok (rendered t (ofText t) values) :=
  render_eq_rendered fun f hf ↦ (separate_fills_ofText.fits f hf).start_lt_stop.le

/-- The edits of a text are its rewrites, in another order and with repetitions. A place in a body
shares bytes with the edit of its block. -/
theorem mem_edits_ofText_iff {e : Edit} :
    e ∈ edits t (distinct (ofText t)) values ↔ e ∈ rewrites t values := by
  have hblocks : ∀ e, e ∈ resolutions t (distinct (ofText t)) values ↔
      ∃ b ∈ ToggleBlock.all t, blockRewrite t values b = e := by
    intro e
    simp only [resolutions, List.mem_filterMap, mem_blocks_ofText_iff]
    constructor
    · rintro ⟨-, ⟨b, hb, rfl⟩, he⟩
      exact ⟨b, hb, Option.some.inj ((resolution?_eq hb).symm.trans he)⟩
    · rintro ⟨b, hb, rfl⟩
      exact ⟨_, ⟨b, hb, rfl⟩, resolution?_eq hb⟩
  rw [edits, mem_addFills_iff separate_fills_ofText.eq_or_apart, hblocks, mem_fills_ofText_iff,
    mem_rewrites_iff]
  refine or_congr_right ⟨?_, ?_⟩
  · rintro ⟨⟨w, hw, rfl⟩, hapart⟩
    rcases mem_flats_iff.mp hw with hw | ⟨b, hb, hw⟩
    · exact ⟨w, hw, rfl⟩
    · obtain ⟨hfits, hstart, hstop⟩ := within_of_mem_inside hb hw
      obtain ⟨hopening, -, hclosing⟩ := ToggleBlock.bodySpan_within hb
      have hlt := hfits.start_lt_stop
      have hblock : b.span.Apart w.span := hapart _ ((hblocks _).mpr ⟨b, hb, rfl⟩)
      rcases hblock with h | h <;> omega
  · rintro ⟨w, hw, rfl⟩
    refine ⟨⟨w, mem_flats_iff.mpr (Or.inl hw), rfl⟩, fun x hx ↦ ?_⟩
    obtain ⟨b, hb, rfl⟩ := (hblocks x).mp hx
    exact apart_of_mem_outside hb hw

/-- A text that is rendered with its own declarations is rewritten from left to right: each block
gives way to its body or to nothing, each flat control to its value or to the default of the
earliest one of its kind and name, and the rest is copied. -/
theorem render_ofText_eq_rewritten (t : Text) (values : ValueMap) :
    render t (ofText t) values = .ok (rewritten t values) := by
  rw [render_ofText_eq_rendered, rewritten]
  exact congrArg Except.ok
    (rendered_eq_readThrough separate_rewrites fun _ ↦ mem_edits_ofText_iff)

/-- The default of the earliest control counts, even if it stands in a block that is not kept. -/
example : rewritten "{{toggle:T}}{{text:A:x}}{{/toggle:T}}{{text:A:y}}".toList ⟨[], .nil⟩ =
    ['x'] := by decide

end PromptTemplate.Rendering
