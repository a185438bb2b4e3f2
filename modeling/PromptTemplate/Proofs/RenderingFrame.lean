import PromptTemplate.Proofs.RenderingSteps

/-!
What a rendering leaves alone, for any declarations. The spans that declarations list may overlap
each other, cut characters or lie beyond the text, and a block may be listed that is none. Whatever
they are, a rendering replaces some of these spans, which cover whole characters and share no byte,
and copies all else (`replaces_render`). This is so for what comes out where differences of offsets
wrap around, and nothing else comes out where they are checked (`Computes`). Each of them is a place
of a flat control and is filled in for it (`FillsIn`), or a place of a toggle where a block stands
(`Resolves`), and then it gives way to nothing or to the body of the block, in which places of flat
controls are filled in likewise.
-/

set_option autoImplicit false
set_option relaxedAutoImplicit false

namespace PromptTemplate.Rendering

/-- Whether an edit puts the value of a flat control, or its default, in one of its places. -/
def FillsIn (values : ValueMap) (controls : List Declaration) (e : Edit) : Prop :=
  ∃ c ∈ controls, c.kind ≠ .toggle ∧ e.span ∈ c.spans ∧ e.replacement = written values c

/-- Whether an edit resolves a block that stands in a place of a toggle. -/
inductive Resolves (t : Text) (values : ValueMap) (controls : List Declaration) (e : Edit) : Prop
  | removed {c : Declaration} {body : Span} (hc : c ∈ controls) (hkind : c.kind = .toggle)
      (hplace : e.span ∈ c.spans) (hbody : ToggleBlock.bodyAt .checked t e.span = .ok (some body))
      (hkeeps : keeps values c = false) (hreplacement : e.replacement = [])
  | kept {c : Declaration} {body : Span} {inner : Text} {fills : List Edit} (hc : c ∈ controls)
      (hkind : c.kind = .toggle) (hplace : e.span ∈ c.spans)
      (hbody : ToggleBlock.bodyAt .checked t e.span = .ok (some body))
      (hkeeps : keeps values c = true) (hinner : body.slice? t = some inner)
      (hfills : ∀ f ∈ fills, FillsIn values controls f ∧ body.contains f.span = true)
      (hreplacement : Edit.Replaces body.start fills inner e.replacement)

variable {t : Text} {values : ValueMap} {controls : List Declaration}

/-- Nothing but fills is added. -/
theorem mem_of_mem_addFills {edits fills : List Edit} {e : Edit} (he : e ∈ addFills edits fills) :
    e ∈ edits ∨ e ∈ fills := by
  induction fills generalizing edits with
  | nil => exact Or.inl he
  | cons f fills ih =>
    rw [addFills, List.foldl_cons, ← addFills] at he
    rcases ih he with he | he
    · split at he
      · exact Or.inl he
      · rcases List.mem_append.mp he with he | he
        · exact Or.inl he
        · exact Or.inr (List.mem_singleton.mp he ▸ List.mem_cons_self)
    · exact Or.inr (List.mem_cons_of_mem _ he)

/-- The fills within a body replace places of flat controls that lie in it. -/
theorem exists_replaces_spliced_innerFills {body : Span} (inner : Text) :
    ∃ made, (∀ f ∈ made, FillsIn values controls f ∧ body.contains f.span = true) ∧
      Edit.Replaces body.start made inner
        (Edit.spliced inner (innerFills body (fills values controls))) := by
  have hsplice := (Edit.replaces_spliced inner (innerFills body (fills values controls))).shift
    body.start
  rw [Nat.zero_add] at hsplice
  refine ⟨_, fun f hf ↦ ?_, hsplice⟩
  obtain ⟨fill, hfill, rfl⟩ := List.mem_map.mp hf
  have hmem := mem_sortBy.mp (Edit.mem_of_mem_taken (List.mem_reverse.mp hfill))
  obtain ⟨hfills, hcontains⟩ := mem_innerFills_iff.mp hmem
  exact ⟨mem_fills_iff.mp hfills, hcontains⟩

/-- The edit for a place of a toggle resolves the block that stands there. -/
theorem resolves_of_resolution? {block : Span × Bool} (hblock : block ∈ blocks values controls)
    {e : Edit} (he : resolution? t (fills values controls) block = some e) :
    Resolves t values controls e := by
  obtain ⟨c, hc, hkind, hplace, hkept⟩ := mem_blocks_iff.mp hblock
  obtain ⟨body, hbody, rfl⟩ := Option.map_eq_some_iff.mp he
  have hbodyAt := ToggleBlock.bodyAt_checked_eq_some_iff.mpr hbody
  cases hkeeps : keeps values c with
  | false =>
    refine Resolves.removed hc hkind hplace hbodyAt hkeeps ?_
    simp only [hkept, hkeeps, Bool.false_eq_true, ↓reduceIte]
  | true =>
    obtain ⟨inner, hinner⟩ := ToggleBlock.exists_slice?_of_bodyAt? hbody
    obtain ⟨made, hmade, hreplaces⟩ := exists_replaces_spliced_innerFills inner
    refine Resolves.kept hc hkind hplace hbodyAt hkeeps hinner hmade ?_
    simp only [hkept, hkeeps, ↓reduceIte, hinner, Option.getD_some]
    exact hreplaces

/-- Each edit fills in a flat control or resolves a block. -/
theorem fillsIn_or_resolves_of_mem_edits {e : Edit} (he : e ∈ edits t controls values) :
    FillsIn values controls e ∨ Resolves t values controls e := by
  rcases mem_of_mem_addFills he with he | he
  · obtain ⟨block, hblock, he⟩ := List.mem_filterMap.mp he
    exact Or.inr (resolves_of_resolution? hblock he)
  · exact Or.inl (mem_fills_iff.mp he)

/-- A rendering replaces places of controls that cover whole characters of the text and share no
byte, and copies all else. -/
theorem replaces_render (t : Text) (declarations : List Declaration) (values : ValueMap) :
    ∃ (output : Text) (made : List Edit),
      Computes t declarations (renderWith · t declarations values) output ∧
      (∀ e ∈ made, e.span.Fits t) ∧
      (made.Pairwise fun e e' ↦ e.span.stop ≤ e'.span.start) ∧
      (∀ e ∈ made, FillsIn values (Declaration.distinct declarations) e ∨
        Resolves t values (Declaration.distinct declarations) e) ∧
      Edit.Replaces 0 made t output := by
  have hsplice := Edit.replaces_spliced t (edits t (Declaration.distinct declarations) values)
  refine ⟨_, _, computes_rendered t declarations values, fun e he ↦ hsplice.fits he,
    hsplice.pairwise, fun e he ↦ ?_, hsplice⟩
  exact fillsIn_or_resolves_of_mem_edits
    (mem_sortBy.mp (Edit.mem_of_mem_taken (List.mem_reverse.mp he)))

end PromptTemplate.Rendering
