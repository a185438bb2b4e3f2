import PromptTemplate.Proofs.SurroundedScan
import PromptTemplate.Proofs.StableSorting
import PromptTemplate.Proofs.WrittenDeclarations

/-!
Declarations further right. Moving a declaration moves all its places and those of the declarations
nested in it (`Declaration.shift`), and everything that is done with declarations on the way from a
text to its list does not care where the text begins: comparing controls, collapsing, sorting. So a
text between other texts declares what it declares alone, moved right by the bytes in front
(`ofText_surrounded`).
-/

set_option autoImplicit false
set_option relaxedAutoImplicit false

namespace PromptTemplate

namespace Span

theorem overlaps_shift (s other : Span) (offset : Nat) :
    (s.shift offset).overlaps (other.shift offset) = s.overlaps other := by
  simp only [overlaps, shift, Nat.add_lt_add_iff_right]

end Span

theorem ToggleBlock.bodySpan_shift (b : Placed ToggleBlock) (offset : Nat) :
    bodySpan (b.shift offset) = (bodySpan b).shift offset := by
  simp only [bodySpan, Placed.shift, Span.shift, Span.mk.injEq]
  omega

namespace Declaration

/-! ### Moving a declaration -/

mutual

/-- A declaration with every place in it further right. -/
def shift (offset : Nat) : Declaration → Declaration
  | ⟨kind, name, defaultValue, options, range, innerText, span, occurrences, nested⟩ =>
    ⟨kind, name, defaultValue, options, range, innerText, span.shift offset,
      occurrences.map (·.shift offset), shiftAll offset nested⟩

/-- Declarations with every place in them further right. -/
def shiftAll (offset : Nat) : List Declaration → List Declaration
  | [] => []
  | d :: ds => shift offset d :: shiftAll offset ds

end

variable (offset : Nat)

theorem shiftAll_eq_map (ds : List Declaration) : shiftAll offset ds = ds.map (shift offset) := by
  induction ds with
  | nil => rfl
  | cons d ds ih => rw [shiftAll, ih, List.map_cons]

/-- All that moves with a declaration are its places and those nested in it. -/
theorem shift_eq (d : Declaration) : d.shift offset =
    { d with
      span := d.span.shift offset
      occurrences := d.occurrences.map (·.shift offset)
      nested := d.nested.map (shift offset) } := by
  cases d
  rw [shift, shiftAll_eq_map]

@[simp] theorem key_shift (d : Declaration) : (d.shift offset).key = d.key := by
  rw [shift_eq]
  rfl

@[simp] theorem name_shift (d : Declaration) : (d.shift offset).name = d.name := by
  rw [shift_eq]

@[simp] theorem defaultValue_shift (d : Declaration) :
    (d.shift offset).defaultValue = d.defaultValue := by
  rw [shift_eq]

@[simp] theorem payload_shift (d : Declaration) : (d.shift offset).payload = d.payload := by
  rw [shift_eq]
  rfl

@[simp] theorem span_shift (d : Declaration) : (d.shift offset).span = d.span.shift offset := by
  rw [shift_eq]

@[simp] theorem occurrences_shift (d : Declaration) :
    (d.shift offset).occurrences = d.occurrences.map (·.shift offset) := by
  rw [shift_eq]

@[simp] theorem nested_shift (d : Declaration) :
    (d.shift offset).nested = d.nested.map (shift offset) := by
  rw [shift_eq]

@[simp] theorem sameControl_shift (d other : Declaration) :
    sameControl (d.shift offset) (other.shift offset) = sameControl d other := by
  simp only [sameControl, key_shift]

theorem spans_shift (d : Declaration) :
    (d.shift offset).spans = d.spans.map (·.shift offset) := by
  rw [shift_eq, spans, spans, List.isEmpty_map]
  dsimp only
  split
  · rfl
  · rfl

/-! ### Collapsing and sorting -/

theorem filter_sameControl_shift (d : Declaration) (ds : List Declaration) :
    (ds.map (shift offset)).filter (sameControl (d.shift offset)) =
      (ds.filter (sameControl d)).map (shift offset) := by
  rw [List.filter_map]
  simp only [Function.comp_def, sameControl_shift]

/-- The first declarations stay the first ones when all are moved. -/
theorem firsts_shift (ds : List Declaration) :
    firsts (ds.map (shift offset)) = (firsts ds).map (shift offset) := by
  induction ds with
  | nil => rfl
  | cons d ds ih =>
    rw [List.map_cons, firsts, firsts, ih, List.map_cons, List.filter_map]
    simp only [Function.comp_def, sameControl_shift]

/-- Declarations can be moved before or after collapsing them. -/
theorem collapse_shift (ds : List Declaration) :
    collapse (ds.map (shift offset)) = (collapse ds).map (shift offset) := by
  rw [collapse, collapse, firsts_shift, List.map_map, List.map_map]
  refine List.map_congr_left fun d _ ↦ ?_
  have hplaces : ((ds.filter (sameControl d)).map (shift offset)).flatMap spans =
      ((ds.filter (sameControl d)).flatMap spans).map (·.shift offset) := by
    rw [List.flatMap_map, List.map_flatMap]
    simp only [spans_shift]
  simp only [Function.comp_apply, filter_sameControl_shift, hplaces]
  rw [shift_eq, shift_eq]

theorem inOrder_shift (ds : List Declaration) :
    inOrder (ds.map (shift offset)) = (inOrder ds).map (shift offset) := by
  rw [inOrder, sortBy_map]
  simp only [span_shift, Span.shift, Nat.add_le_add_iff_right]
  rfl

/-! ### What is read off one place -/

/-- A directive that is moved declares the same, there. -/
theorem ofDirective?_shift (p : Placed Directive) :
    ofDirective? (p.shift offset) = (ofDirective? p).map (shift offset) := by
  rw [ofDirective?, ofDirective?, Option.map_bind]
  cases hkind : p.item.kind? with
  | none => simp [Placed.shift, hkind]
  | some kind =>
    simp only [Placed.shift, hkind, Option.bind_some, Function.comp_apply]
    cases kind with
    | toggle => rfl
    | text => rfl
    | select => rfl
    | slider => rfl

theorem filterMap_ofDirective?_shift (ps : List (Placed Directive)) :
    (ps.map (·.shift offset)).filterMap ofDirective? =
      (ps.filterMap ofDirective?).map (shift offset) := by
  rw [List.filterMap_map, List.map_filterMap]
  simp only [Function.comp_def, ofDirective?_shift]

theorem ofBlock_shift (b : Placed ToggleBlock) :
    ofBlock (b.shift offset) = (ofBlock b).shift offset :=
  rfl

/-- What a block declares in its body moves with the block. -/
theorem inside_shift (b : Placed ToggleBlock) :
    inside (b.shift offset) = (inside b).map (shift offset) := by
  rw [inside, inside, ← filterMap_ofDirective?_shift, directivesInside, directivesInside,
    ToggleBlock.bodySpan_shift, List.map_map]
  refine congrArg (List.filterMap ofDirective?) (List.map_congr_left fun p _ ↦ ?_)
  simp only [Function.comp_apply, Placed.shift, Span.shift, Nat.add_assoc]

theorem flatMap_inside_shift (bs : List (Placed ToggleBlock)) :
    (bs.map (·.shift offset)).flatMap inside = (bs.flatMap inside).map (shift offset) := by
  rw [List.flatMap_map, List.map_flatMap]
  simp only [inside_shift]

/-! ### The declarations of a text between other texts -/

section Surrounded

variable {t before behind : Text} (h : LiteralAround t before behind)
include h

/-- Literal text around a text adds no directive outside of the blocks. -/
theorem directivesOutside_surrounded : directivesOutside (before ++ t ++ behind) =
    (directivesOutside t).map (·.shift before.width) := by
  rw [directivesOutside, directivesOutside, Directive.known_surrounded h,
    ToggleBlock.all_surrounded h, List.filter_map]
  simp only [Function.comp_def, List.any_map, Placed.shift, Span.overlaps_shift]

/-- Literal text around a text moves the controls outside of the blocks. -/
theorem outside_surrounded :
    outside (before ++ t ++ behind) = (outside t).map (shift before.width) := by
  rw [outside, directivesOutside_surrounded h, filterMap_ofDirective?_shift, outside]

theorem flats_surrounded :
    flats (before ++ t ++ behind) = (flats t).map (shift before.width) := by
  rw [flats, outside_surrounded h, ToggleBlock.all_surrounded h, flatMap_inside_shift, flats,
    List.map_append]

theorem toggles_surrounded :
    toggles (before ++ t ++ behind) = (toggles t).map (shift before.width) := by
  rw [toggles, toggles, ToggleBlock.all_surrounded h, List.map_map, List.map_map]
  have hblocks : ((ToggleBlock.all t).map (ofBlock ∘ (·.shift before.width))) =
      ((ToggleBlock.all t).map ofBlock).map (shift before.width) := by
    rw [List.map_map]
    exact List.map_congr_left fun b _ ↦ ofBlock_shift _ b
  rw [hblocks, collapse_shift, List.map_map]
  refine List.map_congr_left fun d _ ↦ ?_
  have hnested : (((ToggleBlock.all t).map (·.shift before.width)).filter
        fun b ↦ b.item.name == (d.shift before.width).name).flatMap inside =
      (((ToggleBlock.all t).filter fun b ↦ b.item.name == d.name).flatMap inside).map
        (shift before.width) := by
    rw [List.filter_map, ← flatMap_inside_shift, name_shift]
    rfl
  simp only [Function.comp_apply, hnested, collapse_shift]
  rw [shift_eq, shift_eq]

/-- A text between other texts declares what it declares alone, further right. -/
theorem ofText_surrounded :
    ofText (before ++ t ++ behind) = (ofText t).map (shift before.width) := by
  rw [ofText, toggles_surrounded h, outside_surrounded h, collapse_shift, ← List.map_append,
    inOrder_shift, ofText]

end Surrounded

end Declaration

end PromptTemplate
