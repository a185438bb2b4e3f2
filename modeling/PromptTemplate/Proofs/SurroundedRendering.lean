import PromptTemplate.Proofs.FillingIn
import PromptTemplate.Proofs.MovedDeclarations

/-!
Literal text around a template. Text that neither begins a mark before the template nor completes
one behind it (`LiteralAround`) is copied, and between its parts the template is rendered as it is
alone. What is placed in the longer text is what is placed in the template, further right
(`placements_surrounded`): the default of the earliest control is the same
(`defaultOf_surrounded`), and a body is read the same wherever it begins (`placeBody_shift`).
-/

set_option autoImplicit false
set_option relaxedAutoImplicit false

namespace PromptTemplate

theorem Edit.readThrough_shift_zero (edits : List Edit) (t : Text) (origin offset : Nat) :
    readThrough (edits.map (·.shift origin)) (offset + origin) 0 t =
      readThrough edits offset 0 t := by
  rw [← readThrough_shift t origin offset 0]
  exact readThrough_resume (Nat.zero_le _) (Nat.add_le_add_right (Nat.zero_le _) _) t

/-- Edits within a text that stands between other texts leave these as they are. -/
theorem Edit.readThrough_surrounded {edits : List Edit} {t : Text}
    (h : ∀ e ∈ edits, e.span.Fits t) (before behind : Text) :
    readThrough (edits.map (·.shift before.width)) 0 0 (before ++ t ++ behind) =
      before ++ readThrough edits 0 0 t ++ behind := by
  have hplace : ∀ e ∈ edits.map (·.shift before.width),
      before.width ≤ e.span.start ∧ e.span.start < e.span.stop ∧
        e.span.stop ≤ before.width + t.width := by
    intro e he
    obtain ⟨e, hmem, rfl⟩ := List.mem_map.mp he
    have hlt := (h e hmem).start_lt_stop
    have hle := (h e hmem).stop_le_width
    simp only [shift, Span.shift]
    omega
  have hbefore : readThrough (edits.map (·.shift before.width)) 0 0 before = before :=
    readThrough_copy before (Nat.le_refl 0) fun e he ↦ Or.inr (by
      obtain ⟨hstart, -, -⟩ := hplace e he
      omega)
  have hbehind : readThrough (edits.map (·.shift before.width))
      (0 + Text.width (before ++ t)) 0 behind = behind :=
    readThrough_copy behind (Nat.zero_le _) fun e he ↦ Or.inl (by
      obtain ⟨-, hlt, hstop⟩ := hplace e he
      rw [Text.width_append]
      omega)
  have hcutBehind : ∀ e ∈ edits.map (·.shift before.width),
      e.span.start < 0 + Text.width (before ++ t) → e.span.stop ≤ 0 + Text.width (before ++ t) := by
    intro e he _
    obtain ⟨-, -, hstop⟩ := hplace e he
    rw [Text.width_append]
    omega
  have hcutBefore : ∀ e ∈ edits.map (·.shift before.width),
      e.span.start < 0 + before.width → e.span.stop ≤ 0 + before.width := by
    intro e he hlt
    obtain ⟨hstart, -, -⟩ := hplace e he
    omega
  rw [readThrough_append (before ++ t) behind (Nat.zero_le _) hcutBehind,
    readThrough_append before t (Nat.zero_le _) hcutBefore, hbefore, hbehind,
    readThrough_shift_zero]

namespace Rendering

open Declaration

/-! ### What stands for a control -/

/-- The default of the earliest control, whichever way the earliest one is found. -/
theorem defaultOf_eq_of_earliest {t : Text} {first d : Declaration} (hfirst : first ∈ flats t)
    (hkey : first.key = d.key)
    (hle : ∀ d' ∈ flats t, d'.key = d.key → first.span.start ≤ d'.span.start) :
    defaultOf t d = first.defaultValue := by
  have hmem : first ∈ (flats t).filter (sameControl d) :=
    List.mem_filter.mpr ⟨hfirst, sameControl_iff.mpr hkey.symm⟩
  unfold defaultOf
  cases hmin : ((flats t).filter (sameControl d)).argmin (·.span.start) with
  | none => exact absurd (List.argmin_eq_none.mp hmin) (List.ne_nil_of_mem hmem)
  | some least =>
    obtain ⟨hleast, hsame⟩ := List.mem_filter.mp (List.argmin_mem hmin)
    have hstart : least.span.start = first.span.start := Nat.le_antisymm
      (List.le_of_mem_argmin (f := fun d : Declaration ↦ d.span.start) hmem hmin)
      (hle least hleast (sameControl_iff.mp hsame).symm)
    exact congrArg defaultValue (eq_of_mem_flats_of_start_eq hleast hfirst hstart)

/-- Every flat control has an earliest one of its kind and name. -/
theorem exists_earliest {t : Text} {d : Declaration} (hd : d ∈ flats t) :
    ∃ first ∈ flats t, first.key = d.key ∧
      ∀ d' ∈ flats t, d'.key = d.key → first.span.start ≤ d'.span.start := by
  have hmem : ∀ {d'}, d' ∈ flats t → d'.key = d.key → d' ∈ (flats t).filter (sameControl d) :=
    fun hd' hkey ↦ List.mem_filter.mpr ⟨hd', sameControl_iff.mpr hkey.symm⟩
  cases hmin : ((flats t).filter (sameControl d)).argmin (·.span.start) with
  | none => exact absurd (List.argmin_eq_none.mp hmin) (List.ne_nil_of_mem (hmem hd rfl))
  | some first =>
    obtain ⟨hfirst, hsame⟩ := List.mem_filter.mp (List.argmin_mem hmin)
    exact ⟨first, hfirst, (sameControl_iff.mp hsame).symm, fun d' hd' hkey ↦
      List.le_of_mem_argmin (f := fun d : Declaration ↦ d.span.start) (hmem hd' hkey) hmin⟩

section Surrounded

variable {t before behind : Text} (h : LiteralAround t before behind) (values : ValueMap)
include h

/-- Literal text around a text leaves the defaults of its controls as they are. -/
theorem defaultOf_surrounded {d : Declaration} (hd : d ∈ flats t) :
    defaultOf (before ++ t ++ behind) (d.shift before.width) = defaultOf t d := by
  obtain ⟨first, hfirst, hkey, hle⟩ := exists_earliest hd
  rw [defaultOf_eq_of_earliest hfirst hkey hle, ← defaultValue_shift before.width first]
  refine defaultOf_eq_of_earliest ?_ (by rw [key_shift, key_shift, hkey]) fun d' hd' hkey' ↦ ?_
  · rw [flats_surrounded h]
    exact List.mem_map_of_mem hfirst
  · rw [flats_surrounded h] at hd'
    obtain ⟨d', hmem, rfl⟩ := List.mem_map.mp hd'
    rw [key_shift, key_shift] at hkey'
    rw [span_shift, span_shift]
    exact Nat.add_le_add_right (hle d' hmem hkey') _

/-- Literal text around a text leaves what is filled in as it is. -/
theorem filling_surrounded {d : Declaration} (hd : d ∈ flats t) :
    filling (before ++ t ++ behind) values (d.shift before.width) = filling t values d := by
  unfold filling
  rw [name_shift, defaultOf_surrounded h hd]

/-! ### What is placed -/

omit h in
theorem map_placeFilling_shift {fill fill' : Declaration → Text} {offset : Nat}
    {ds : List Declaration} (hfill : ∀ d ∈ ds, fill' (d.shift offset) = fill d) :
    (ds.map (Declaration.shift offset)).map (placeFilling fill') =
      (ds.map (placeFilling fill)).map (·.shift offset) := by
  rw [List.map_map, List.map_map]
  refine List.map_congr_left fun d hd ↦ ?_
  simp only [Function.comp_apply, placeFilling, Edit.shift, span_shift, hfill d hd]

omit h in
/-- The body of a block is read the same wherever the block stands. -/
theorem placeBody_shift {fill fill' : Declaration → Text} {offset : Nat} {b : Placed ToggleBlock}
    (hfill : ∀ d ∈ inside b, fill' (d.shift offset) = fill d) :
    placeBody fill' values (b.shift offset) = (placeBody fill values b).shift offset := by
  have hbody : Edit.readThrough ((inside (b.shift offset)).map (placeFilling fill'))
      (ToggleBlock.bodySpan (b.shift offset)).start 0 b.item.body =
        Edit.readThrough ((inside b).map (placeFilling fill)) (ToggleBlock.bodySpan b).start 0
          b.item.body := by
    rw [inside_shift, map_placeFilling_shift hfill, ToggleBlock.bodySpan_shift]
    exact Edit.readThrough_shift_zero _ _ _ _
  have hkeeps : keeps values (ofBlock (b.shift offset)) = keeps values (ofBlock b) := rfl
  rw [placeBody, placeBody, hkeeps]
  exact congrArg (fun body ↦ Edit.mk (b.span.shift offset)
    (if keeps values (ofBlock b) then body else [])) hbody

/-- All that is put in the places of a text is put in the places moved behind what is before. -/
theorem placements_surrounded :
    placements (filling (before ++ t ++ behind) values) values (before ++ t ++ behind) =
      (placements (filling t values) values t).map (·.shift before.width) := by
  have hfill : ∀ d ∈ flats t,
      filling (before ++ t ++ behind) values (d.shift before.width) = filling t values d :=
    fun _ ↦ filling_surrounded h values
  have hblocks : (ToggleBlock.all (before ++ t ++ behind)).map
      (placeBody (filling (before ++ t ++ behind) values) values) =
        ((ToggleBlock.all t).map (placeBody (filling t values) values)).map
          (·.shift before.width) := by
    rw [ToggleBlock.all_surrounded h, List.map_map, List.map_map]
    exact List.map_congr_left fun b hb ↦ placeBody_shift values fun d hd ↦
      hfill d (mem_flats_iff.mpr (Or.inr ⟨b, hb, hd⟩))
  rw [placements, placements, hblocks, outside_surrounded h, List.map_append,
    map_placeFilling_shift fun d hd ↦ hfill d (mem_flats_iff.mpr (Or.inl hd))]

/-- A template between literal texts is rendered between them as it is alone. -/
theorem render_ofText_surrounded :
    ∃ output, render t (ofText t) values = .ok output ∧
      render (before ++ t ++ behind) (ofText (before ++ t ++ behind)) values =
        .ok (before ++ output ++ behind) := by
  have hfits : ∀ e ∈ placements (filling t values) values t, e.span.Fits t := by
    intro e he
    rcases List.mem_append.mp he with he | he
    · obtain ⟨b, hb, rfl⟩ := List.mem_map.mp he
      exact fits_of_mem_all hb
    · obtain ⟨d, hd, rfl⟩ := List.mem_map.mp he
      exact fits_of_mem_outside hd
  refine ⟨_, render_ofText_eq_filledIn t values, ?_⟩
  rw [render_ofText_eq_filledIn, filledIn, filledIn, placements_surrounded h,
    Edit.readThrough_surrounded hfits before behind]

end Surrounded

/-- Literal text around a template changes neither what the template declares, apart from where,
nor what it is rendered to. -/
theorem ofText_and_render_of_literalAround {t before behind : Text}
    (h : LiteralAround t before behind) (values : ValueMap) :
    ofText (before ++ t ++ behind) = (ofText t).map (Declaration.shift before.width) ∧
      ∃ output, render t (ofText t) values = .ok output ∧
        render (before ++ t ++ behind) (ofText (before ++ t ++ behind)) values =
          .ok (before ++ output ++ behind) :=
  ⟨ofText_surrounded h, render_ofText_surrounded h values⟩

/-- The text in front may end a mark, and the text behind may hold a brace that closes none. -/
theorem ofText_and_render_of_literalAround_marks : ∃ t before behind : Text,
    t = "{{toggle:T}}x{{/toggle:T}}{{text:A:y}}\x7b\x7btext:B".toList ∧
      before = "\x7d\x7d \x7b a".toList ∧
      behind = ":\x7b\x7bb\x7d \x7b\x7b/toggle:B".toList ∧ LiteralAround t before behind ∧
      ofText (before ++ t ++ behind) = (ofText t).map (Declaration.shift before.width) ∧
        ∃ output, render t (ofText t) ⟨[], .nil⟩ = .ok output ∧
          render (before ++ t ++ behind) (ofText (before ++ t ++ behind)) ⟨[], .nil⟩ =
            .ok (before ++ output ++ behind) := by
  have h : LiteralAround "{{toggle:T}}x{{/toggle:T}}{{text:A:y}}\x7b\x7btext:B".toList
      "\x7d\x7d \x7b a".toList ":\x7b\x7bb\x7d \x7b\x7b/toggle:B".toList :=
    { no_openMark := fun h ↦ absurd (h.sublist.count_le '{') (by decide)
      not_opening := by decide
      no_closeMark := fun h ↦ absurd (h.sublist.count_le '}') (by decide)
      not_closing := by decide }
  exact ⟨_, _, _, rfl, rfl, rfl, h, ofText_and_render_of_literalAround h ⟨[], .nil⟩⟩

end Rendering

end PromptTemplate
