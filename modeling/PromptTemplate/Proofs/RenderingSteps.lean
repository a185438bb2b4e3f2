import PromptTemplate.Proofs.DistinctControls
import PromptTemplate.Proofs.FirstFaults
import PromptTemplate.Proofs.RenderingEdits

/-!
The steps of a rendering on offsets, for any declarations, whatever the ends of their spans are. All
cuts and slices can be made, and so can the subtraction that finds where a body ends. What is left
are the places of flat controls that are counted from the start of a kept body. A place that
straddles the start of the body cannot be counted from there.

So a rendering with checked differences succeeds exactly if no place straddles the start of a kept
body (`StraddlesKeptBody`), and otherwise it stops at the stop of such a place
(`render_eq_ok_or_eq_belowZero`). Where differences wrap around, the stop of such a place lies
beyond the body, so the place is left out there, and the rendering always succeeds
(`renderWith_wrapping_eq`). In both ways no other text comes out than the one with the countable
places filled in (`computes_rendered`).
-/

set_option autoImplicit false
set_option relaxedAutoImplicit false

namespace PromptTemplate.Rendering

/-! ### Checked differences -/

/-- A fill that can be counted from an origin keeps its replacement there. -/
theorem countFrom_map_eq {arithmetic : Arithmetic} {f : Edit} {origin : Nat} {r : Span}
    (hr : f.span.countFrom arithmetic origin = .ok r) :
    ((f.span.countFrom arithmetic origin).map fun span ↦ { f with span }) =
      .ok { f with span := r } := by
  rw [hr]
  rfl

/-- The fills within a body are found, unless one of them straddles its start. -/
theorem fillsWithin_checked_cases (fills : List Edit) {body : Span}
    (hbody : body.start ≤ body.stop) :
    (fillsWithin .checked body fills = .ok (innerFills body fills) ∧
        ∀ f ∈ fills, ¬ f.span.Straddles body) ∨
      ∃ f ∈ fills, f.span.Straddles body ∧
        fillsWithin .checked body fills = .error (.belowZero f.span.stop body.start) := by
  have hcount : ∀ f ∈ fills.filter (fun fill ↦ body.contains fill.span),
      (∃ e, ((f.span.countFrom .checked body.start).map fun span ↦ { f with span }) = .ok e ∧
          ((f.span.relativeTo? body.start).map fun span ↦ { f with span }) = some e ∧
          ¬ f.span.Straddles body) ∨
        ∃ m, ((f.span.countFrom .checked body.start).map fun span ↦ { f with span }) = .error m ∧
          f.span.Straddles body ∧ m = .belowZero f.span.stop body.start := by
    intro f hf
    rcases Span.relativeTo?_of_contains (List.mem_filter.mp hf).2 with
      ⟨r, hr, hnot⟩ | ⟨-, hstraddles⟩
    · have hok := Span.countFrom_eq (Arithmetic.holds_checked _) (Arithmetic.holds_checked _) hr
      exact Or.inl ⟨_, countFrom_map_eq hok, by rw [hr, Option.map_some], hnot⟩
    · refine Or.inr ⟨_, ?_, hstraddles, rfl⟩
      rw [Span.countFrom_checked_of_straddles hstraddles]
      rfl
  rcases mapM_ok_or_error hcount with ⟨hok, hnone⟩ | ⟨f, hf, m, hfail, hstraddles, rfl⟩
  · refine Or.inl ⟨hok, fun f hf hstraddles ↦ ?_⟩
    exact hnone f (List.mem_filter.mpr ⟨hf, Span.contains_of_straddles hbody hstraddles⟩) hstraddles
  · exact Or.inr ⟨f, List.mem_of_mem_filter hf, hstraddles, hfail⟩

/-- The edit of a block is found, unless a fill straddles the start of its body and the block is
kept. -/
theorem blockEdit_checked_cases (t : Text) (fills : List Edit) (block : Span × Bool) :
    (blockEdit .checked t fills block = .ok (resolution? t fills block) ∧
        ∀ body, block.2 = true → ToggleBlock.bodyAt? t block.1 = some body →
          ∀ f ∈ fills, ¬ f.span.Straddles body) ∨
      ∃ body, block.2 = true ∧ ToggleBlock.bodyAt? t block.1 = some body ∧
        ∃ f ∈ fills, f.span.Straddles body ∧
          blockEdit .checked t fills block = .error (.belowZero f.span.stop body.start) := by
  obtain ⟨own, kept⟩ := block
  simp only [blockEdit, resolution?, ToggleBlock.bodyAt_checked_eq, bind, Except.bind]
  cases hbody : ToggleBlock.bodyAt? t own with
  | none => simp
  | some body =>
    cases kept with
    | false => simp
    | true =>
      obtain ⟨inner, hinner⟩ := ToggleBlock.exists_slice?_of_bodyAt? hbody
      have hstop := Span.stop_eq_of_slice?_eq_some hinner
      have hordered : body.start ≤ body.stop := by omega
      rcases fillsWithin_checked_cases fills hordered with
        ⟨hfills, hnone⟩ | ⟨f, hf, hstraddles, hfail⟩
      · refine Or.inl ⟨?_, ?_⟩
        · simp only [hfills, Text.slice_eq_ok_iff.mpr hinner, hinner, Edit.splice_eq,
            Option.map_some, Option.getD_some, ↓reduceIte]
        · intro body' _ hbody'
          obtain rfl := Option.some.inj hbody'
          exact hnone
      · refine Or.inr ⟨_, rfl, rfl, f, hf, hstraddles, ?_⟩
        simp only [hfail, ↓reduceIte]

/-- Whether a place of a flat control straddles the start of the body of a block that is kept. -/
def StraddlesKeptBody (t : Text) (values : ValueMap) (controls : List Declaration)
    (s body : Span) : Prop :=
  (∃ c ∈ controls, c.kind ≠ .toggle ∧ s ∈ c.spans) ∧
    (∃ c ∈ controls, c.kind = .toggle ∧ keeps values c = true ∧
      ∃ own ∈ c.spans, ToggleBlock.bodyAt .checked t own = .ok (some body)) ∧
    s.Straddles body

variable {t : Text} {values : ValueMap} {controls : List Declaration}

/-- A place that straddles a kept body is that of a fill which straddles the body of a block to
keep. -/
theorem straddlesKeptBody_iff {s body : Span} :
    StraddlesKeptBody t values controls s body ↔
      ∃ block ∈ blocks values controls, block.2 = true ∧
        ToggleBlock.bodyAt? t block.1 = some body ∧
          ∃ f ∈ fills values controls, f.span = s ∧ f.span.Straddles body := by
  simp only [StraddlesKeptBody, ToggleBlock.bodyAt_checked_eq_some_iff]
  constructor
  · rintro ⟨⟨c, hc, hkind, hs⟩, ⟨c', hc', hkind', hkeeps, own, hown, hbody⟩, hstraddles⟩
    exact ⟨(own, true), mem_blocks_iff.mpr ⟨c', hc', hkind', hown, hkeeps.symm⟩, rfl,
      hbody, ⟨s, written values c⟩, mem_fills_iff.mpr ⟨c, hc, hkind, hs, rfl⟩, rfl, hstraddles⟩
  · rintro ⟨block, hblock, hkept, hbody, f, hf, rfl, hstraddles⟩
    obtain ⟨c, hc, hkind, hs, -⟩ := mem_fills_iff.mp hf
    obtain ⟨c', hc', hkind', hown, hkeeps⟩ := mem_blocks_iff.mp hblock
    exact ⟨⟨c, hc, hkind, hs⟩, ⟨c', hc', hkind', hkeeps.symm.trans hkept, block.1, hown, hbody⟩,
      hstraddles⟩

/-- The edits of all blocks are found, unless a place straddles the start of a kept body. -/
theorem blockEdits_checked_cases (t : Text) (values : ValueMap) (controls : List Declaration) :
    (blockEdits .checked t controls values = .ok (resolutions t controls values) ∧
        ∀ s body, ¬ StraddlesKeptBody t values controls s body) ∨
      ∃ s body, StraddlesKeptBody t values controls s body ∧
        blockEdits .checked t controls values = .error (.belowZero s.stop body.start) := by
  have hstep : ∀ block ∈ blocks values controls,
      (∃ e, blockEdit .checked t (fills values controls) block = .ok e ∧
          some (resolution? t (fills values controls) block) = some e ∧
          ∀ body, block.2 = true → ToggleBlock.bodyAt? t block.1 = some body →
            ∀ f ∈ fills values controls, ¬ f.span.Straddles body) ∨
        ∃ m, blockEdit .checked t (fills values controls) block = .error m ∧
          ∃ s body, StraddlesKeptBody t values controls s body ∧
            m = .belowZero s.stop body.start := by
    intro block hblock
    rcases blockEdit_checked_cases t (fills values controls) block with
      ⟨hok, hnone⟩ | ⟨body, hkeeps, hbody, f, hf, hstraddles, hfail⟩
    · exact Or.inl ⟨_, hok, rfl, hnone⟩
    · exact Or.inr ⟨_, hfail, f.span, body,
        straddlesKeptBody_iff.mpr ⟨block, hblock, hkeeps, hbody, f, hf, rfl, hstraddles⟩, rfl⟩
  rcases mapM_ok_or_error hstep with ⟨hok, hnone⟩ | ⟨-, -, m, hfail, s, body, hstraddles, rfl⟩
  · refine Or.inl ⟨?_, fun s body hkept ↦ ?_⟩
    · rw [blockEdits, hok, Except.map, List.filterMap_filterMap]
      rfl
    · obtain ⟨block, hblock, hkeeps, hbody, f, hf, -, hstraddles⟩ :=
        straddlesKeptBody_iff.mp hkept
      exact hnone block hblock body hkeeps hbody f hf hstraddles
  · refine Or.inr ⟨s, body, hstraddles, ?_⟩
    rw [blockEdits, hfail]
    rfl

/-- What the edits of the blocks are found to be determines the rendering. -/
theorem renderWith_eq_of_blockEdits {arithmetic : Arithmetic} {declarations : List Declaration}
    (h : blockEdits arithmetic t (Declaration.distinct declarations) values =
      .ok (resolutions t (Declaration.distinct declarations) values)) :
    renderWith arithmetic t declarations values = .ok (rendered t declarations values) := by
  simp only [renderWith, h, bind, Except.bind, Edit.splice_eq]
  rfl

/-- A rendering gives the text with the countable places filled in, or a place straddles the start
of a kept body and its stop is where the rendering stops. -/
theorem render_cases (t : Text) (declarations : List Declaration) (values : ValueMap) :
    (render t declarations values = .ok (rendered t declarations values) ∧
        ∀ s body, ¬ StraddlesKeptBody t values (Declaration.distinct declarations) s body) ∨
      ∃ s body, StraddlesKeptBody t values (Declaration.distinct declarations) s body ∧
        render t declarations values = .error (.belowZero s.stop body.start) := by
  rcases blockEdits_checked_cases t values (Declaration.distinct declarations) with
    ⟨hok, hnone⟩ | ⟨s, body, hstraddles, hfail⟩
  · exact Or.inl ⟨renderWith_eq_of_blockEdits hok, hnone⟩
  · refine Or.inr ⟨s, body, hstraddles, ?_⟩
    simp only [render, renderWith, hfail, bind, Except.bind]

/-- A rendering succeeds if the places of the flat controls have their ends in order. -/
theorem render_eq_rendered {declarations : List Declaration}
    (h : ∀ f ∈ fills values (Declaration.distinct declarations), f.span.start ≤ f.span.stop) :
    render t declarations values = .ok (rendered t declarations values) := by
  rcases render_cases t declarations values with ⟨hok, -⟩ | ⟨s, body, hkept, -⟩
  · exact hok
  · obtain ⟨-, -, -, -, f, hf, -, hstart, hstop⟩ := straddlesKeptBody_iff.mp hkept
    have hle := h f hf
    omega

/-! ### Differences that wrap around -/

/-- Whether a word that holds so many numbers holds the offsets of a text and the ends of all places
that declarations list. -/
structure HoldsOffsets (size : Nat) (t : Text) (declarations : List Declaration) : Prop where
  width_lt : t.width < size
  ends_lt : ∀ d ∈ Declaration.flatten declarations, ∀ s ∈ d.spans, s.start < size ∧ s.stop < size

variable {size : Nat} {declarations : List Declaration}

theorem exists_forall_ends_lt (spans : List Span) :
    ∃ size, ∀ s ∈ spans, s.start < size ∧ s.stop < size := by
  induction spans with
  | nil => exact ⟨0, nofun⟩
  | cons s spans ih =>
    obtain ⟨size, hsize⟩ := ih
    refine ⟨size + s.start + s.stop + 1, List.forall_mem_cons.mpr ⟨by omega, fun r hr ↦ ?_⟩⟩
    obtain ⟨hstart, hstop⟩ := hsize r hr
    omega

/-- There is a word that holds the offsets. -/
theorem exists_holdsOffsets (t : Text) (declarations : List Declaration) :
    ∃ size, HoldsOffsets size t declarations := by
  obtain ⟨size, hsize⟩ :=
    exists_forall_ends_lt ((Declaration.flatten declarations).flatMap (·.spans))
  refine ⟨t.width + size + 1, by omega, fun d hd s hs ↦ ?_⟩
  obtain ⟨hstart, hstop⟩ := hsize s (List.mem_flatMap.mpr ⟨d, hd, hs⟩)
  omega

theorem HoldsOffsets.fills_lt (h : HoldsOffsets size t declarations) {f : Edit}
    (hf : f ∈ fills values (Declaration.distinct declarations)) :
    f.span.start < size ∧ f.span.stop < size := by
  obtain ⟨c, hc, -, hs, -⟩ := mem_fills_iff.mp hf
  obtain ⟨d, hd, -, hs⟩ := (Declaration.mem_spans_of_mem_distinct hc).mp hs
  exact h.ends_lt d hd _ hs

/-- Of the fills within a body, those that do not reach beyond it are the ones that can be counted
from its start. -/
theorem exists_fillsWithin_wrapping {body : Span} {fills : List Edit}
    (hbody : body.start ≤ body.stop) (hsize : body.stop < size)
    (hfills : ∀ f ∈ fills, f.span.start < size ∧ f.span.stop < size) :
    ∃ es, fillsWithin (.wrapping size) body fills = .ok es ∧
      es.filter (fun e ↦ e.span.stop ≤ body.stop - body.start) =
        (innerFills body fills).filter fun e ↦ e.span.stop ≤ body.stop - body.start := by
  refine exists_mapM_filter_eq fun f hf ↦ ?_
  obtain ⟨hmem, hcontains⟩ := List.mem_filter.mp hf
  obtain ⟨hstart, hstop⟩ := hfills f hmem
  rcases Span.relativeTo?_of_contains hcontains with ⟨r, hr, -⟩ | ⟨hnone, hstraddles⟩
  · have hok := @Span.countFrom_eq (.wrapping size) f.span body.start r hstart hstop hr
    exact ⟨_, countFrom_map_eq hok, Or.inl (by rw [hr, Option.map_some])⟩
  · obtain ⟨r, hok, hlt⟩ :=
      Span.exists_countFrom_wrapping_of_straddles hstraddles hbody hsize hstart
    exact ⟨_, countFrom_map_eq hok,
      Or.inr ⟨by rw [hnone, Option.map_none], decide_eq_false (Nat.not_le.mpr hlt)⟩⟩

/-- What reaches beyond a body is not filled in, so the edit of a block is always found. -/
theorem blockEdit_wrapping_eq {fills : List Edit} (ht : t.width < size)
    (hfills : ∀ f ∈ fills, f.span.start < size ∧ f.span.stop < size) (block : Span × Bool) :
    blockEdit (.wrapping size) t fills block = .ok (resolution? t fills block) := by
  obtain ⟨own, kept⟩ := block
  have hbodyAt := @ToggleBlock.bodyAt_eq (.wrapping size) t ht own
  simp only [blockEdit, resolution?, hbodyAt, bind, Except.bind]
  cases hbody : ToggleBlock.bodyAt? t own with
  | none => rfl
  | some body =>
    cases kept with
    | false => rfl
    | true =>
      obtain ⟨inner, hinner⟩ := ToggleBlock.exists_slice?_of_bodyAt? hbody
      have hstop := Span.stop_eq_of_slice?_eq_some hinner
      have hle := Span.stop_le_width_of_slice?_eq_some hinner
      have hordered : body.start ≤ body.stop := by omega
      obtain ⟨es, hes, hfilter⟩ := exists_fillsWithin_wrapping hordered (by omega) hfills
      rw [show body.stop - body.start = inner.width by omega] at hfilter
      have hspliced : Edit.spliced inner es = Edit.spliced inner (innerFills body fills) :=
        Edit.spliced_eq_of_filter_eq (fun e he ↦ decide_eq_true he.stop_le_width) hfilter
      simp only [hes, Text.slice_eq_ok_iff.mpr hinner, hinner, Edit.splice_eq, hspliced,
        Option.map_some, Option.getD_some, ↓reduceIte]

/-- The edits of all blocks are found where differences wrap around. -/
theorem blockEdits_wrapping_eq (h : HoldsOffsets size t declarations) (values : ValueMap) :
    blockEdits (.wrapping size) t (Declaration.distinct declarations) values =
      .ok (resolutions t (Declaration.distinct declarations) values) := by
  rw [blockEdits, mapM_eq_ok fun block _ ↦
    blockEdit_wrapping_eq h.width_lt (fun _ hf ↦ h.fills_lt hf) block]
  simp only [Except.map, List.filterMap_map, Function.id_comp]
  rfl

/-- A rendering whose differences wrap around always succeeds. -/
theorem renderWith_wrapping_eq (h : HoldsOffsets size t declarations) (values : ValueMap) :
    renderWith (.wrapping size) t declarations values = .ok (rendered t declarations values) :=
  renderWith_eq_of_blockEdits (blockEdits_wrapping_eq h values)

/-! ### What comes out -/

/-- Whether a result is the one that is computed from the offsets of a text and of declared places:
it comes out where differences wrap around in a word that holds the offsets, and nothing else comes
out where they are checked. -/
structure Computes {α : Type} (t : Text) (declarations : List Declaration)
    (compute : Arithmetic → Except Misstep α) (result : α) : Prop where
  wrapping : ∀ size, HoldsOffsets size t declarations → compute (.wrapping size) = .ok result
  checked : ∀ other, compute .checked = .ok other → other = result

/-- There is no more than one such result. -/
theorem Computes.unique {α : Type} {compute : Arithmetic → Except Misstep α} {result other : α}
    (h : Computes t declarations compute result) (hother : Computes t declarations compute other) :
    result = other := by
  obtain ⟨size, hsize⟩ := exists_holdsOffsets t declarations
  exact Except.ok.inj ((h.wrapping size hsize).symm.trans (hother.wrapping size hsize))

/-- The text with the countable places filled in is what is computed. -/
theorem computes_rendered (t : Text) (declarations : List Declaration) (values : ValueMap) :
    Computes t declarations (renderWith · t declarations values)
      (rendered t declarations values) where
  wrapping _ h := renderWith_wrapping_eq h values
  checked output houtput := by
    rcases render_cases t declarations values with ⟨hok, -⟩ | ⟨s, body, -, hfail⟩
    · exact Except.ok.inj (houtput.symm.trans hok)
    · cases houtput.symm.trans hfail

/-- The resolutions of the blocks are what their edits are computed to be. -/
theorem computes_resolutions (t : Text) (declarations : List Declaration) (values : ValueMap) :
    Computes t declarations (blockEdits · t (Declaration.distinct declarations) values)
      (resolutions t (Declaration.distinct declarations) values) where
  wrapping _ h := blockEdits_wrapping_eq h values
  checked es hes := by
    rcases blockEdits_checked_cases t values (Declaration.distinct declarations) with
      ⟨hok, -⟩ | ⟨s, body, -, hfail⟩
    · exact Except.ok.inj (hes.symm.trans hok)
    · cases hes.symm.trans hfail

/-- A rendering succeeds, or it stops where a place of a flat control that straddles the start of a
kept body is counted from there. No other step of it can fail. -/
theorem render_eq_ok_or_eq_belowZero (t : Text) (declarations : List Declaration)
    (values : ValueMap) :
    (∃ output, render t declarations values = .ok output ∧
        Computes t declarations (renderWith · t declarations values) output ∧
        ∀ s body, ¬ StraddlesKeptBody t values (Declaration.distinct declarations) s body) ∨
      ∃ s body, StraddlesKeptBody t values (Declaration.distinct declarations) s body ∧
        render t declarations values = .error (.belowZero s.stop body.start) := by
  rcases render_cases t declarations values with ⟨hok, hnone⟩ | hfail
  · exact Or.inl ⟨_, hok, computes_rendered t declarations values, hnone⟩
  · exact Or.inr hfail

/-- A place from 13 to 0 lies within the body from 12 to 13 by its ends alone, and its stop cannot
be counted from 12. -/
theorem render_inverted_place :
    render "{{toggle:T}}x{{/toggle:T}}".toList
        [Declaration.single .toggle ['T'] ⟨0, 26⟩, Declaration.single .text ['A'] ⟨13, 0⟩]
        ⟨[(['T'], .bool true)], List.pairwise_singleton _ _⟩ =
      .error (.belowZero 0 12) := by decide

end PromptTemplate.Rendering
