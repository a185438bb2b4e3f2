import PromptTemplate.Rendering
import PromptTemplate.Proofs.SpliceReading
import PromptTemplate.Proofs.ToggleGrammar

/-!
The edits of a rendering, for any declarations. Here the fills of a body are those whose places can
be counted from its start (`innerFills`), and the text with all edits made is `rendered`: what a
rendering comes to if no place that straddles the start of a body stops it.

A fill goes into the body of a block when it lies within it, at its place in the body
(`mem_innerFills_iff`), and fills that share no byte keep that there (`separate_innerFills`). The
fills that share no byte with a block are made beside the blocks (`mem_addFills_iff`). If the edits
share no byte at all, the text is read through them (`rendered_eq_readThrough`).
-/

set_option autoImplicit false
set_option relaxedAutoImplicit false

namespace PromptTemplate.Rendering

/-! ### The edits that are made -/

/-- The edits within a body, at their places in it, without those that straddle its start. -/
def innerFills (body : Span) (fills : List Edit) : List Edit :=
  (fills.filter fun fill ↦ body.contains fill.span).filterMap fun fill ↦
    (fill.span.relativeTo? body.start).map fun span ↦ { fill with span }

/-- The edit that resolves a block, if one is there. -/
def resolution? (t : Text) (fills : List Edit) (block : Span × Bool) : Option Edit :=
  (ToggleBlock.bodyAt? t block.1).map fun body ↦
    { span := block.1
      replacement :=
        if block.2 then Edit.spliced ((body.slice? t).getD []) (innerFills body fills) else [] }

/-- The edits that resolve the blocks of a text. -/
def resolutions (t : Text) (controls : List Declaration) (values : ValueMap) : List Edit :=
  (blocks values controls).filterMap (resolution? t (fills values controls))

/-- All edits that turn a template into its filled-in form. -/
def edits (t : Text) (controls : List Declaration) (values : ValueMap) : List Edit :=
  addFills (resolutions t controls values) (fills values controls)

/-- The template with all edits made. -/
def rendered (t : Text) (declarations : List Declaration) (values : ValueMap) : Text :=
  Edit.spliced t (edits t (Declaration.distinct declarations) values)

/-! ### Which edits there are -/

variable {values : ValueMap} {controls : List Declaration}

/-- A fill is an edit of a place of a flat control. -/
theorem mem_fills_iff {e : Edit} : e ∈ fills values controls ↔
    ∃ c ∈ controls, c.kind ≠ .toggle ∧ e.span ∈ c.spans ∧ e.replacement = written values c := by
  simp only [fills, Edit.rightmostFirst, mem_sortBy, List.mem_flatMap, List.mem_filter,
    List.mem_map, Declaration.isToggle, Bool.not_eq_true', beq_eq_false_iff_ne, and_assoc]
  refine exists_congr fun c ↦ and_congr_right fun _ ↦ and_congr_right fun _ ↦ ⟨?_, ?_⟩
  · rintro ⟨s, hs, rfl⟩
    exact ⟨hs, rfl⟩
  · rintro ⟨hs, hwritten⟩
    exact ⟨e.span, hs, by rw [← hwritten]⟩

/-- A block is a place of a toggle with whether it is kept. -/
theorem mem_blocks_iff {block : Span × Bool} : block ∈ blocks values controls ↔
    ∃ c ∈ controls, c.kind = .toggle ∧ block.1 ∈ c.spans ∧ block.2 = keeps values c := by
  simp only [blocks, mem_sortBy, List.mem_flatMap, List.mem_filter, List.mem_map,
    Declaration.isToggle, beq_iff_eq, and_assoc]
  refine exists_congr fun c ↦ and_congr_right fun _ ↦ and_congr_right fun _ ↦ ⟨?_, ?_⟩
  · rintro ⟨s, hs, rfl⟩
    exact ⟨hs, rfl⟩
  · rintro ⟨hs, hkeeps⟩
    exact ⟨block.1, hs, by rw [← hkeeps]⟩

/-- The fills within a body are those that lie in it, counted from its start. -/
theorem mem_innerFills_iff {body : Span} {fills : List Edit} {e : Edit} :
    e ∈ innerFills body fills ↔
      e.shift body.start ∈ fills ∧ body.contains (e.span.shift body.start) = true := by
  simp only [innerFills, List.mem_filterMap, List.mem_filter, Option.map_eq_some_iff,
    Span.relativeTo?_eq_some_iff]
  constructor
  · rintro ⟨fill, ⟨hfill, hcontains⟩, s, hs, rfl⟩
    have hshift : Edit.shift { fill with span := s } body.start = fill := by
      rw [Edit.shift, hs]
    exact ⟨by rwa [hshift], by rwa [hs]⟩
  · rintro ⟨hfill, hcontains⟩
    exact ⟨e.shift body.start, ⟨hfill, hcontains⟩, e.span, rfl, rfl⟩

/-- Fills that are separate in a text are so in a body of it. -/
theorem separate_innerFills {t body : Text} {outer : Span} {fills : List Edit}
    (hbody : outer.slice? t = some body) (h : Edit.Separate t fills) :
    Edit.Separate body (innerFills outer fills) where
  fits e he := by
    obtain ⟨hfill, hcontains⟩ := mem_innerFills_iff.mp he
    simp only [Span.contains, Bool.and_eq_true, decide_eq_true_eq] at hcontains
    exact Span.fits_of_shift_fits hbody (h.fits _ hfill) hcontains.2
  eq_or_apart e he e' he' := by
    obtain ⟨hfill, -⟩ := mem_innerFills_iff.mp he
    obtain ⟨hfill', -⟩ := mem_innerFills_iff.mp he'
    refine (h.eq_or_apart _ hfill _ hfill').imp (fun heq ↦ ?_) Span.Apart.of_shift
    obtain ⟨hspan, hreplacement⟩ := Edit.mk.inj heq
    cases e
    cases e'
    rw [Edit.mk.injEq]
    exact ⟨Span.shift_injective hspan, hreplacement⟩

/-- An edit that overlaps none of some others is apart from all of them. -/
theorem any_overlaps_eq_false_iff {edits : List Edit} {f : Edit} :
    (edits.any fun e ↦ e.span.overlaps f.span) = false ↔ ∀ e ∈ edits, e.span.Apart f.span := by
  simp only [List.any_eq_false, Bool.not_eq_true, Span.apart_iff_overlaps_eq_false]

/-- Of fills that share no byte those are added that share none with an edit before them. -/
theorem mem_addFills_iff {edits fills : List Edit}
    (hfills : ∀ f ∈ fills, ∀ f' ∈ fills, f = f' ∨ f.span.Apart f'.span) {e : Edit} :
    e ∈ addFills edits fills ↔
      e ∈ edits ∨ (e ∈ fills ∧ ∀ x ∈ edits, x.span.Apart e.span) := by
  induction fills generalizing edits with
  | nil => simp [addFills]
  | cons f fills ih =>
    have hrest : ∀ f ∈ fills, ∀ f' ∈ fills, f = f' ∨ f.span.Apart f'.span := fun f hf f' hf' ↦
      hfills f (List.mem_cons_of_mem _ hf) f' (List.mem_cons_of_mem _ hf')
    rw [addFills, List.foldl_cons, ← addFills, ih hrest]
    cases hany : edits.any fun e ↦ e.span.overlaps f.span with
    | false =>
      have hfree := any_overlaps_eq_false_iff.mp hany
      rw [if_neg Bool.false_ne_true, List.mem_append, List.mem_singleton, List.mem_cons]
      constructor
      · rintro ((he | rfl) | ⟨he, hx⟩)
        · exact Or.inl he
        · exact Or.inr ⟨Or.inl rfl, hfree⟩
        · exact Or.inr ⟨Or.inr he, fun x hx' ↦ hx x (List.mem_append_left _ hx')⟩
      · rintro (he | ⟨rfl | he, hx⟩)
        · exact Or.inl (Or.inl he)
        · exact Or.inl (Or.inr rfl)
        · rcases hfills f List.mem_cons_self e (List.mem_cons_of_mem _ he) with rfl | hapart
          · exact Or.inl (Or.inr rfl)
          · refine Or.inr ⟨he, fun x hx' ↦ ?_⟩
            rcases List.mem_append.mp hx' with hx' | hx'
            · exact hx x hx'
            · rw [List.mem_singleton.mp hx']
              exact hapart
    | true =>
      rw [if_pos rfl, List.mem_cons]
      constructor
      · exact Or.imp_right fun ⟨he, hx⟩ ↦ ⟨Or.inr he, hx⟩
      · rintro (he | ⟨rfl | he, hx⟩)
        · exact Or.inl he
        · rw [any_overlaps_eq_false_iff.mpr hx] at hany
          cases hany
        · exact Or.inr ⟨he, hx⟩

/-- If the edits are separate ones, the text is read through them. -/
theorem rendered_eq_readThrough {t : Text} {declarations : List Declaration} {es : List Edit}
    (hes : Edit.Separate t es)
    (hmem : ∀ e, e ∈ edits t (Declaration.distinct declarations) values ↔ e ∈ es) :
    rendered t declarations values = Edit.readThrough es 0 0 t := by
  have hseparate := hes.congr hmem
  unfold rendered
  rw [Edit.spliced_eq_readThrough hseparate]
  exact Edit.readThrough_congr_of_mem_iff hmem
    (fun e he e' he' ↦ hseparate.eq_of_start_eq he he') 0 0 t

end PromptTemplate.Rendering
