import PromptTemplate.Proofs.DeclarationLookup
import PromptTemplate.Proofs.DocumentScan

/-!
Reading undoes writing. The declarations of the source of a document list its controls and nothing
else, each at the places where it was written and inside of the toggle that it was written in, and
what they state of a control is what was written for it first.

A control is read back from its directive (`Control.ofDirective?_directive`). The rest is where
things are: the top level of the source declares what the document does at its top level
(`outside_source`, `map_ofBlock_all_source`) and each block what its toggle does
(`inside_block`).
-/

set_option autoImplicit false
set_option relaxedAutoImplicit false

namespace PromptTemplate.Document

open Scan Declaration

/-! ### One control -/

/-- Choices that are joined are read as options again. -/
theorem optionsOf_intercalate {choices : List Choice} (hne : choices ≠ []) :
    optionsOf (some (['|'].intercalate (choices.map (·.text)))) = choices.map (·.text) := by
  have hplain : ∀ t ∈ choices.map (·.text), '|' ∉ t := by
    intro t ht hmem
    obtain ⟨choice, -, rfl⟩ := List.mem_map.mp ht
    exact choice.plain '|' hmem (by decide)
  rw [optionsOf, List.splitOn_intercalate '|' hplain (by simpa using hne), List.map_map]
  exact List.map_congr_left fun choice _ ↦ choice.trim_eq

/-- A position with its bounds is read as the position and the bounds. -/
theorem sliderOf_intercalate (position : Label) (least greatest : Int64) :
    sliderOf (some ([':'].intercalate
      [position.text, Integer.text least.toInt, Integer.text greatest.toInt])) =
        (position.text, ⟨least.toInt, greatest.toInt⟩) := by
  have hplain : ∀ t ∈ [position.text, Integer.text least.toInt, Integer.text greatest.toInt],
      ':' ∉ t := by
    intro t ht hmem
    simp only [List.mem_cons, List.not_mem_nil, or_false] at ht
    rcases ht with rfl | rfl | rfl
    · exact position.plain ':' hmem (by decide)
    · exact (Integer.plain_of_mem_text hmem).2 (by decide)
    · exact (Integer.plain_of_mem_text hmem).2 (by decide)
  have hempty : position.text.isEmpty = false := by
    rw [← Bool.not_eq_true, List.isEmpty_iff]
    exact position.ne_nil
  simp only [sliderOf, List.splitOn_intercalate ':' hplain (List.cons_ne_nil _ _), List.map_cons,
    List.map_nil, position.trim_eq, Integer.trim_text, hempty, Integer.signed64?_text_toInt,
    Option.getD_some, Bool.false_eq_true, ↓reduceIte]

/-- A control is read back from its directive. -/
theorem Control.ofDirective?_directive (c : Control) (s : Span) :
    ofDirective? ⟨c.directive, s⟩ = some (c.declaration s) := by
  have hname : Directive.name c.directive = c.name.text := c.name.trim_eq
  rw [ofDirective?, c.kind?_directive, Option.bind_some, hname]
  obtain ⟨name, setting⟩ := c
  cases setting with
  | text initial =>
    have htrim : Text.trim initial.text = initial.text := initial.trim_eq
    simp only [Setting.kind, Control.directive, Setting.rest, Option.getD_some, htrim,
      Control.declaration]
  | select first more =>
    have hoptions := optionsOf_intercalate (List.cons_ne_nil first more)
    simp only [Setting.kind, Control.directive, Setting.rest, hoptions, Control.declaration]
    rfl
  | slider position least greatest =>
    simp only [Setting.kind, Control.directive, Setting.rest, sliderOf_intercalate,
      Control.declaration]

/-! ### What is declared where -/

/-- A piece declares what is read off its directives. -/
theorem Piece.filterMap_directives (q : Piece) {s : Span}
    (hspan : s = ⟨s.start, s.start + q.source.width⟩) :
    (q.directives s.start).filterMap ofDirective? = (Piece.declaration? ⟨q, s⟩).toList := by
  cases q with
  | literal l => rfl
  | control c =>
    have hplace : (⟨s.start, s.start + c.source.width⟩ : Span) = s := hspan.symm
    simp only [Piece.directives, hplace, List.filterMap_cons, c.ofDirective?_directive,
      List.filterMap_nil]
    rfl

/-- A piece has at most one directive, and it takes up the piece. -/
theorem Piece.span_of_mem_directives (q : Piece) {s : Span}
    (hspan : s = ⟨s.start, s.start + q.source.width⟩) {d : Placed Directive}
    (hd : d ∈ q.directives s.start) : d.span = s := by
  cases q with
  | literal l => cases hd
  | control c =>
    obtain rfl := List.mem_singleton.mp hd
    exact hspan.symm

/-- What a piece declares is no toggle. -/
theorem Piece.isFlat_declaration? (q : Piece) (s : Span) :
    ((Piece.declaration? ⟨q, s⟩).toList).filter (·.isToggle) = [] := by
  cases q with
  | literal l => rfl
  | control c =>
    obtain ⟨name, setting⟩ := c
    cases setting <;> rfl

/-- The declarations in a body are those of the pieces of the body. -/
theorem Toggle.filterMap_bodyDirectives (g : Toggle) (offset : Nat) :
    (g.bodyDirectives offset).filterMap ofDirective? =
      (placedFrom Piece.source offset g.body).filterMap Piece.declaration? := by
  rw [Toggle.bodyDirectives, List.filterMap_flatMap, List.filterMap_eq_flatMap_toList]
  exact List.flatMap_congr fun p hp ↦ p.item.filterMap_directives (of_mem_placedFrom hp).2.2

/-- The directives in the body of a toggle that is moved right move with it. -/
theorem Toggle.bodyDirectives_shift (g : Toggle) (offset : Nat) :
    (g.bodyDirectives 0).map (fun d ↦ { d with span := d.span.shift offset }) =
      g.bodyDirectives offset := by
  have hplaced : placedFrom Piece.source offset g.body =
      (placedFrom Piece.source 0 g.body).map fun p ↦ { p with span := p.span.shift offset } := by
    rw [← placedFrom_add, Nat.zero_add]
  unfold Toggle.bodyDirectives
  rw [hplaced, List.flatMap_map, List.map_flatMap]
  apply List.flatMap_congr
  intro p _
  cases p.item with
  | literal l => rfl
  | control c =>
    simp only [Piece.directives, List.map_cons, List.map_nil, Span.shift, Nat.add_right_comm]

/-- What is declared inside of a block is what its toggle declares there. -/
theorem inside_block (g : Toggle) (s : Span) : inside ⟨g.block, s⟩ = g.inside s := by
  unfold inside directivesInside
  rw [known_body, g.bodyDirectives_shift, g.filterMap_bodyDirectives]
  rfl

theorem ofBlock_block (g : Toggle) (s : Span) : ofBlock ⟨g.block, s⟩ = g.declaration s := by
  have hname : ToggleBlock.name g.block = g.name.text := g.name.trim_eq
  rw [ofBlock, hname]
  rfl

/-- The blocks of a placed item. -/
theorem Item.blocks_of_mem {doc : Document} {p : Placed Item}
    (hp : p ∈ placedFrom Item.source 0 doc) {g : Toggle} (hg : p.item = .toggle g) :
    p.item.blocks p.span.start = [⟨g.block, p.span⟩] := by
  have hspan := (of_mem_placedFrom hp).2.2
  rw [hg] at hspan ⊢
  have hplace : (⟨p.span.start, p.span.start + g.source.width⟩ : Span) = p.span := hspan.symm
  rw [Item.blocks, hplace]

/-- The blocks of a document are its toggles. -/
theorem mem_all_source_iff {doc : Document} {b : Placed ToggleBlock} :
    b ∈ ToggleBlock.all doc.source ↔
      ∃ p ∈ placedFrom Item.source 0 doc, ∃ g, p.item = .toggle g ∧ b = ⟨g.block, p.span⟩ := by
  rw [all_source, List.mem_flatMap]
  refine exists_congr fun p ↦ and_congr_right fun hp ↦ ?_
  cases hitem : p.item with
  | piece q =>
    simp [Item.blocks]
  | toggle g =>
    have hblocks := Item.blocks_of_mem hp hitem
    rw [hitem] at hblocks
    simp [hblocks]

/-- The directives of a toggle lie in its block. -/
theorem overlaps_of_mem_directives {g : Toggle} {offset : Nat} {d : Placed Directive}
    (hd : d ∈ (Item.toggle g).directives offset) :
    (⟨offset, offset + g.source.width⟩ : Span).overlaps d.span = true := by
  have hopening : 0 < g.block.openingTag.width := Text.width_pos (ToggleTag.source_ne_nil _)
  have hclosing : 0 < g.block.closingTag.width := Text.width_pos (ToggleTag.source_ne_nil _)
  have hwidth : g.source.width =
      g.block.openingTag.width + (g.block.body.width + g.block.closingTag.width) := by
    rw [Toggle.source, ToggleBlock.source_eq, Text.width_append, Text.width_append]
  simp only [Span.overlaps, Bool.and_eq_true, decide_eq_true_eq]
  rcases List.mem_cons.mp hd with rfl | hd
  · dsimp only
    omega
  · obtain ⟨p, hp, hd⟩ := List.mem_flatMap.mp hd
    obtain ⟨hstart, hstop, hspan⟩ := of_mem_placedFrom hp
    have hbody : Text.width (g.body.flatMap Piece.source) = g.block.body.width := rfl
    have hstop' : p.span.stop = p.span.start + p.item.source.width := congrArg Span.stop hspan
    rw [p.item.span_of_mem_directives hspan hd]
    omega

/-! ### The top level of a document -/

variable (doc : Document)

/-- The blocks of a document are what it declares as toggles. -/
theorem map_ofBlock_all_source : (ToggleBlock.all doc.source).map ofBlock =
    doc.declarations.filter (·.isToggle) := by
  unfold declarations
  rw [all_source, List.map_flatMap, List.filterMap_eq_flatMap_toList, List.filter_flatMap]
  apply List.flatMap_congr
  intro p hp
  obtain ⟨item, s⟩ := p
  cases item with
  | piece q => exact (q.isFlat_declaration? s).symm
  | toggle g =>
    rw [Item.blocks_of_mem hp rfl, List.map_singleton, ofBlock_block]
    rfl

/-- An item shares no byte with the toggles beside it. -/
theorem apart_of_mem_all_source {b : Placed ToggleBlock} (hb : b ∈ ToggleBlock.all doc.source)
    {p : Placed Item} (hp : p ∈ placedFrom Item.source 0 doc) {q : Piece}
    (hq : p.item = .piece q) : b.span.Apart p.span := by
  obtain ⟨p', hp', g, hg, rfl⟩ := mem_all_source_iff.mp hb
  rcases Span.eq_or_apart_of_pairwise (pairwise_placedFrom 0 doc) hp' hp with rfl | hapart
  · rw [hg] at hq
    cases hq
  · exact hapart

/-- The directives of an item lie outside of all blocks if it is a piece, and only then. -/
theorem filter_directives {p : Placed Item} (hp : p ∈ placedFrom Item.source 0 doc) :
    (p.item.directives p.span.start).filter
        (fun d ↦ !(ToggleBlock.all doc.source).any fun b ↦ b.span.overlaps d.span) =
      match p.item with
      | .piece q => q.directives p.span.start
      | .toggle _ => [] := by
  have hspan := (of_mem_placedFrom hp).2.2
  cases hitem : p.item with
  | piece q =>
    rw [hitem] at hspan
    apply List.filter_eq_self.mpr
    intro d hd
    rw [Bool.not_eq_true', List.any_eq_false]
    intro b hb
    rw [q.span_of_mem_directives hspan hd,
      Span.apart_iff_overlaps_eq_false.mp (apart_of_mem_all_source doc hb hp hitem)]
    exact Bool.false_ne_true
  | toggle g =>
    rw [hitem] at hspan
    have hblock : ⟨g.block, p.span⟩ ∈ ToggleBlock.all doc.source :=
      mem_all_source_iff.mpr ⟨p, hp, g, hitem, rfl⟩
    apply List.filter_eq_nil_iff.mpr
    intro d hd
    have hoverlaps : p.span.overlaps d.span = true := by
      rw [hspan]
      exact overlaps_of_mem_directives hd
    rw [Bool.not_eq_true', Bool.not_eq_false, List.any_eq_true]
    exact ⟨_, hblock, hoverlaps⟩

/-- What is declared outside of the blocks of a document is what it declares as flat controls. -/
theorem outside_source : outside doc.source = doc.declarations.filter (!·.isToggle) := by
  unfold outside directivesOutside declarations
  rw [known_source, List.filter_flatMap, List.filterMap_flatMap,
    List.filterMap_eq_flatMap_toList, List.filter_flatMap]
  apply List.flatMap_congr
  intro p hp
  rw [filter_directives doc hp]
  have hspan := (of_mem_placedFrom hp).2.2
  obtain ⟨item, s⟩ := p
  cases item with
  | piece q =>
    have hflat := List.filter_eq_nil_iff.mp (q.isFlat_declaration? s)
    refine (q.filterMap_directives hspan).trans (List.filter_eq_self.mpr fun d hd ↦ ?_).symm
    rw [Bool.not_eq_true', Bool.eq_false_iff]
    exact hflat d hd
  | toggle g => rfl

/-- The blocks and the flat controls outside of them are what is declared at the top level. -/
theorem perm_top_declarations :
    ((ToggleBlock.all doc.source).map ofBlock ++ outside doc.source).Perm doc.declarations := by
  rw [map_ofBlock_all_source, outside_source]
  exact List.filter_append_perm _ _

/-- Sorting the toggles from the flat controls changes nothing of what is stated first. -/
theorem payload?_top_declarations (k : Kind × Text) :
    payload? ((ToggleBlock.all doc.source).map ofBlock ++ outside doc.source) k =
      payload? doc.declarations k := by
  have hkind : ∀ d : Declaration, d.key = k → d.isToggle = (k.1 == .toggle) := by
    rintro d rfl
    rfl
  rw [payload?_append, map_ofBlock_all_source, outside_source]
  cases hk : k.1 == .toggle with
  | true =>
    have htoggle : ∀ d : Declaration, d.key = k → d.isToggle = true := fun d hkey ↦ by
      rw [hkind d hkey, hk]
    have hnone := payload?_filter_eq_none (p := (!·.isToggle))
      (fun d hkey ↦ by rw [htoggle d hkey]; rfl) doc.declarations
    rw [payload?_filter htoggle, hnone, Option.or_none]
  | false =>
    have hflat : ∀ d : Declaration, d.key = k → d.isToggle = false := fun d hkey ↦ by
      rw [hkind d hkey, hk]
    rw [payload?_filter_eq_none hflat, Option.none_or]
    exact payload?_filter (fun d hkey ↦ by rw [hflat d hkey]; rfl) _

/-- What is inside of the blocks of a document is what it declares inside of its toggles. -/
theorem flatMap_inside_source : ((ToggleBlock.all doc.source).flatMap fun b ↦
    (inside b).map ((ofBlock b).key, ·)) = doc.nested := by
  unfold nested
  rw [all_source, List.flatMap_assoc]
  apply List.flatMap_congr
  intro p hp
  obtain ⟨item, s⟩ := p
  cases item with
  | piece q => rfl
  | toggle g =>
    rw [Item.blocks_of_mem hp rfl, List.flatMap_singleton, inside_block, ofBlock_block]
    rfl

/-- The blocks of one toggle have inside what the document declares inside of this toggle. -/
theorem flatMap_inside_filter_source (toggle : Kind × Text) :
    ((ToggleBlock.all doc.source).filter fun b ↦ (ofBlock b).key == toggle).flatMap inside =
      (doc.nested.filter (·.1 == toggle)).map (·.2) := by
  rw [← flatMap_inside_source, List.filter_flatMap, List.map_flatMap]
  induction ToggleBlock.all doc.source with
  | nil => rfl
  | cons b bs ih =>
    rw [List.filter_cons, List.flatMap_cons, ← ih]
    cases hkey : (ofBlock b).key == toggle with
    | true =>
      rw [if_pos rfl, List.flatMap_cons, List.filter_map]
      simp [Function.comp_def, hkey]
    | false =>
      rw [if_neg Bool.false_ne_true, List.filter_map]
      simp [Function.comp_def, hkey]

/-! ### What is read back -/

/-- Whether declarations list the controls of a document and nothing else, each with the places
where it is written and inside of the toggle that it is written in, and state of each control, at
the top level and inside of the toggles of one name, what is written first. -/
structure ReadsBack (ds : List Declaration) : Prop where
  sites : (ds.flatMap sites).Perm (doc.declarations.map fun d ↦ (d.key, d.span))
  nested_sites : (ds.flatMap fun d ↦ (d.nested.flatMap Declaration.sites).map (d.key, ·)).Perm
    (doc.nested.map fun (toggle, d) ↦ (toggle, d.key, d.span))
  payload : ∀ k, payload? ds k = payload? doc.declarations k
  nested_payload : ∀ toggle k,
    ((ds.find? (·.key == toggle)).bind fun d ↦ payload? d.nested k) =
      payload? ((doc.nested.filter (·.1 == toggle)).map (·.2)) k

/-- The source of every document is read back. -/
theorem readsBack_ofText_source : ReadsBack doc (ofText doc.source) where
  sites := by
    refine (perm_sites_top doc.source).trans ?_
    have hblocks : (ToggleBlock.all doc.source).map blockSite =
        ((ToggleBlock.all doc.source).map ofBlock).map fun d ↦ (d.key, d.span) := by
      rw [List.map_map]
      rfl
    rw [hblocks, ← map_site_outside, ← List.map_append]
    exact (perm_top_declarations doc).map _
  nested_sites := by
    refine (perm_keyed_sites_nested doc.source).trans (List.Perm.of_eq ?_)
    rw [← flatMap_inside_source, List.map_flatMap]
    apply List.flatMap_congr
    intro b _
    rw [← map_site_inside, List.map_map, List.map_map]
    rfl
  payload k := (payload?_ofText doc.source k).trans (payload?_top_declarations doc k)
  nested_payload toggle k := by
    rw [payload?_nested_ofText, flatMap_inside_filter_source]

end PromptTemplate.Document
