import PromptTemplate.Proofs.ReferenceRewriting

/-!
Filling in with a filling chosen for each place. `filledIn` reads a text once from left to right and
puts in the place of each flat control what a function says stands for it; a block gives way to its
body, read the same way, or to nothing. Only the fillings of the controls that are written in the
text count (`filledIn_congr`). Rendering a text with its own declarations is filling it in with the
value of each control or with the default of the earliest one of its kind and name
(`render_ofText_eq_filledIn`).
-/

set_option autoImplicit false
set_option relaxedAutoImplicit false

namespace PromptTemplate.Rendering

open Declaration

section FilledIn

variable (fill : Declaration → Text) (values : ValueMap)

/-- The place of a flat control with its filling. -/
def placeFilling (d : Declaration) : Edit := ⟨d.span, fill d⟩

/-- The place of a block with its body, filled in, if it is kept, and with nothing otherwise. -/
def placeBody (b : Placed ToggleBlock) : Edit :=
  { span := b.span
    replacement :=
      if keeps values (ofBlock b) then
        Edit.readThrough ((inside b).map (placeFilling fill)) (ToggleBlock.bodySpan b).start 0
          b.item.body
      else [] }

/-- The blocks of a text and the flat controls outside of them with what stands for each. -/
def placements (t : Text) : List Edit :=
  (ToggleBlock.all t).map (placeBody fill values) ++ (outside t).map (placeFilling fill)

/-- The text read from left to right with its blocks and flat controls filled in. -/
def filledIn (t : Text) : Text := Edit.readThrough (placements fill values t) 0 0 t

end FilledIn

variable {values : ValueMap} {t : Text}

/-- Only what the flat declarations of the text are filled in with matters. -/
theorem filledIn_congr {fill fill' : Declaration → Text} (h : ∀ d ∈ flats t, fill d = fill' d) :
    filledIn fill values t = filledIn fill' values t := by
  have hplace : ∀ d ∈ flats t, placeFilling fill d = placeFilling fill' d := fun d hd ↦ by
    rw [placeFilling, placeFilling, h d hd]
  have hbody : ∀ b ∈ ToggleBlock.all t, placeBody fill values b = placeBody fill' values b := by
    intro b hb
    have hinside : (inside b).map (placeFilling fill) = (inside b).map (placeFilling fill') :=
      List.map_congr_left fun d hd ↦ hplace d (mem_flats_iff.mpr (Or.inr ⟨b, hb, hd⟩))
    rw [placeBody, placeBody, hinside]
  have houtside : (outside t).map (placeFilling fill) = (outside t).map (placeFilling fill') :=
    List.map_congr_left fun d hd ↦ hplace d (mem_flats_iff.mpr (Or.inl hd))
  rw [filledIn, filledIn, placements, placements, List.map_congr_left hbody, houtside]

/-- What is rewritten in a text is what is placed in it with the fillings of the rendering. -/
theorem rewrites_eq_placements (t : Text) (values : ValueMap) :
    rewrites t values = placements (filling t values) values t := by
  have hblock : blockRewrite t values = placeBody (filling t values) values := by
    funext b
    have hname : (ofBlock b).name = b.item.name := rfl
    rw [blockRewrite, blockFilling, placeBody, keeps, hname]
    cases values.get? b.item.name with
    | none => rfl
    | some value => rfl
  rw [rewrites, placements, hblock]
  rfl

/-- A text is rendered with its own declarations by filling in each flat control with its value or
with the default of the earliest one of its kind and name. -/
theorem render_ofText_eq_filledIn (t : Text) (values : ValueMap) :
    render t (ofText t) values = .ok (filledIn (filling t values) values t) := by
  rw [render_ofText_eq_rendered, filledIn, ← rewrites_eq_placements]
  exact congrArg Except.ok
    (rendered_eq_readThrough separate_rewrites fun _ ↦ mem_edits_ofText_iff)

end PromptTemplate.Rendering
