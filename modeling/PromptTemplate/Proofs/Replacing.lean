import PromptTemplate.Edit
import PromptTemplate.Proofs.StableSorting
import PromptTemplate.Proofs.TextCuts

/-!
Replacing as a relation. `Edit.Replaces` says what it is for one text to become another when spans
of it are replaced: the text is cut into the characters that the spans cover and the runs between
them, each covered part gives way to its replacement, and each run between two of them is copied.
So the spans come from left to right, share no byte and cover whole characters
(`Replaces.of_mem`, `Replaces.pairwise`).

Splicing makes its edits from right to left in a text that changes under them, and what it makes of
the text is such a replacement (`exists_replaces_splice`). The invariant of the loop: what is left
of the last edit is still as it was in the source, so the offsets of the edits to come are right in
the output as well, and what is right of it has been replaced (`exists_replaces_applyEach`). So
every slice to replace is there, and no splice fails (`splice_eq`). Edits that do not fit the text
make no difference to it (`splice_filter`).
-/

set_option autoImplicit false
set_option relaxedAutoImplicit false

namespace PromptTemplate.Edit

/-- Whether a text that begins at an offset becomes another one when the spans of edits give way to
their replacements and all else is copied. -/
inductive Replaces : Nat → List Edit → Text → Text → Prop
  | copy (offset : Nat) (kept : Text) : Replaces offset [] kept kept
  | edit {offset : Nat} {e : Edit} {edits : List Edit} {kept covered t out : Text}
      (hcovered : covered ≠ [])
      (hspan : e.span = ⟨offset + kept.width, offset + kept.width + covered.width⟩)
      (hrest : Replaces (offset + kept.width + covered.width) edits t out) :
      Replaces offset (e :: edits) (kept ++ (covered ++ t)) (kept ++ (e.replacement ++ out))

/-! ### The spans of a replacement -/

section Replaces

variable {offset : Nat} {edits : List Edit} {t out : Text}

/-- Characters in front of a text in which spans are replaced are copied. -/
theorem Replaces.append_left (front : Text)
    (h : Replaces (offset + front.width) edits t out) :
    Replaces offset edits (front ++ t) (front ++ out) := by
  generalize hoffset : offset + front.width = offset' at h
  cases h with
  | copy kept => exact Replaces.copy _ _
  | @edit _ e edits kept covered t out hcovered hspan hrest =>
    have hwidth : offset' + kept.width = offset + Text.width (front ++ kept) := by
      rw [Text.width_append, ← hoffset, Nat.add_assoc]
    rw [hwidth] at hspan hrest
    rw [← List.append_assoc front, ← List.append_assoc front]
    exact Replaces.edit hcovered hspan hrest

/-- The span of an edit lies behind the offset and covers some characters of the text. -/
theorem Replaces.of_mem (h : Replaces offset edits t out) {e : Edit} (he : e ∈ edits) :
    ∃ pre covered post, t = pre ++ covered ++ post ∧ covered ≠ [] ∧
      e.span = ⟨offset + pre.width, offset + pre.width + covered.width⟩ := by
  induction h with
  | copy => cases he
  | @edit offset first edits kept covered t out hcovered hspan hrest ih =>
    rcases List.mem_cons.mp he with rfl | he
    · exact ⟨kept, covered, t, (List.append_assoc _ _ _).symm, hcovered, hspan⟩
    · obtain ⟨pre, covered', post, rfl, hcovered', hspan'⟩ := ih he
      refine ⟨kept ++ (covered ++ pre), covered', post, ?_, hcovered', ?_⟩
      · simp only [List.append_assoc]
      · simpa only [Text.width_append, Nat.add_assoc] using hspan'

/-- What is replaced fits the text. -/
theorem Replaces.fits (h : Replaces 0 edits t out) {e : Edit} (he : e ∈ edits) :
    e.span.Fits t := by
  obtain ⟨pre, covered, post, ht, hcovered, hspan⟩ := h.of_mem he
  rw [Nat.zero_add] at hspan
  exact Span.fits_of_slice?_eq_some (Span.slice?_eq_some_iff.mpr ⟨pre, post, ht, hspan⟩) hcovered

/-- The spans come from left to right and share no byte. -/
theorem Replaces.pairwise (h : Replaces offset edits t out) :
    edits.Pairwise fun e e' ↦ e.span.stop ≤ e'.span.start := by
  induction h with
  | copy => exact List.Pairwise.nil
  | edit hcovered hspan hrest ih =>
    refine List.pairwise_cons.mpr ⟨fun e' he' ↦ ?_, ih⟩
    obtain ⟨pre, covered, post, -, -, hspan'⟩ := hrest.of_mem he'
    rw [hspan, hspan']
    exact Nat.le_add_right _ _

/-- An edit moved right. -/
def shift (e : Edit) (offset : Nat) : Edit := { e with span := e.span.shift offset }

/-- Spans can be counted in a text or in one that it is part of. -/
theorem Replaces.shift (h : Replaces offset edits t out) (origin : Nat) :
    Replaces (offset + origin) (edits.map (·.shift origin)) t out := by
  induction h with
  | copy offset kept => exact Replaces.copy _ kept
  | @edit offset e edits kept covered t out hcovered hspan hrest ih =>
    have hstart : offset + kept.width + origin = offset + origin + kept.width := by omega
    have hstop : offset + kept.width + covered.width + origin =
        offset + origin + kept.width + covered.width := by omega
    rw [hstop] at ih
    refine Replaces.edit hcovered ?_ ih
    change e.span.shift origin = _
    rw [hspan, Span.shift, hstart, hstop]

end Replaces

/-! ### The edits that are made -/

/-- The edits that a splice makes, from the right to the left. -/
def taken (source : Text) (limit : Nat) : List Edit → List Edit
  | [] => []
  | e :: rest =>
    if e.fits source limit then e :: taken source e.span.start rest
    else taken source limit rest

theorem mem_of_mem_taken {source : Text} {limit : Nat} {es : List Edit} {e : Edit}
    (he : e ∈ taken source limit es) : e ∈ es := by
  induction es generalizing limit with
  | nil => cases he
  | cons first rest ih =>
    rw [taken] at he
    split at he
    · rcases List.mem_cons.mp he with rfl | he
      · exact List.mem_cons_self
      · exact List.mem_cons_of_mem _ (ih he)
    · exact List.mem_cons_of_mem _ (ih he)

/-- An edit can be made before a limit exactly if its span fits the text and stops there at the
latest. -/
theorem fits_iff {source : Text} {limit : Nat} {e : Edit} :
    e.fits source limit = true ↔ e.span.Fits source ∧ e.span.stop ≤ limit := by
  simp only [fits, Bool.and_eq_true, Bool.not_eq_true', decide_eq_true_eq,
    Option.isSome_iff_exists]
  constructor
  · rintro ⟨⟨hempty, hlimit⟩, m, hm⟩
    refine ⟨Span.fits_of_slice?_eq_some hm ?_, hlimit⟩
    rintro rfl
    obtain ⟨pre, post, -, hspan⟩ := Span.slice?_eq_some_iff.mp hm
    simp [Span.isEmpty, Span.length, hspan] at hempty
  · rintro ⟨hfits, hlimit⟩
    obtain ⟨m, -, hm⟩ := hfits.exists_slice?
    have hlt := hfits.start_lt_stop
    refine ⟨⟨?_, hlimit⟩, m, hm⟩
    unfold Span.isEmpty Span.length
    rw [beq_eq_false_iff_ne]
    omega

theorem fits_width_iff {source : Text} {e : Edit} :
    e.fits source source.width = true ↔ e.span.Fits source :=
  fits_iff.trans ⟨And.left, fun h ↦ ⟨h, h.stop_le_width⟩⟩

instance (s : Span) (t : Text) : Decidable (s.Fits t) :=
  decidable_of_iff _ (fits_width_iff (e := ⟨s, []⟩))

/-- What an edit that is to be made covers lies in the part of the source that is left. -/
theorem exists_append_of_fits {source pre post : Text} {e : Edit}
    (hsource : source = pre ++ post) (hfits : e.fits source pre.width = true) :
    ∃ front covered between, pre = front ++ (covered ++ between) ∧ covered ≠ [] ∧
      e.span = ⟨front.width, front.width + covered.width⟩ := by
  obtain ⟨hspanFits, hstop⟩ := fits_iff.mp hfits
  obtain ⟨covered, hcovered, hslice⟩ := hspanFits.exists_slice?
  obtain ⟨front, behind, hcut, hspan⟩ := Span.slice?_eq_some_iff.mp hslice
  rw [hspan] at hstop
  obtain ⟨between, rfl, -⟩ := Text.exists_append_of_width_le (hcut.symm.trans hsource)
    (by rw [Text.width_append]; exact hstop)
  exact ⟨front, covered, between, List.append_assoc _ _ _, hcovered, hspan⟩

/-- The loop of a splice. What is left of the limit is as in the source, what is right of it has
been replaced, and the edits that are still made replace their spans in what is left. So every one
of them finds its slice. -/
theorem exists_replaces_applyEach (source : Text) (es : List Edit) {limit : Nat}
    {made : List Edit} {pre post out : Text} (hsource : source = pre ++ post)
    (hlimit : pre.width = limit) (hmade : Replaces limit made post out) :
    ∃ output, applyEach source limit (pre ++ out) es = .ok output ∧
      Replaces 0 ((taken source limit es).reverse ++ made) source output := by
  induction es generalizing limit made pre post out with
  | nil =>
    refine ⟨pre ++ out, rfl, ?_⟩
    rw [taken, List.reverse_nil, List.nil_append, hsource]
    rw [← hlimit, ← Nat.zero_add pre.width] at hmade
    exact hmade.append_left pre
  | cons e es ih =>
    rw [taken, applyEach]
    split
    · rename_i hfits
      obtain ⟨front, covered, between, rfl, hcovered, hspan⟩ :=
        exists_append_of_fits hsource (hlimit ▸ hfits)
      have hbetween : Replaces (front.width + covered.width) made (between ++ post)
          (between ++ out) := by
        rw [← hlimit, Text.width_append, Text.width_append, ← Nat.add_assoc] at hmade
        exact hmade.append_left between
      have hcons : Replaces front.width (e :: made) (covered ++ (between ++ post))
          (e.replacement ++ (between ++ out)) :=
        @Replaces.edit _ e made [] _ _ _ hcovered hspan hbetween
      have hreplace : Text.replace (front ++ (covered ++ between) ++ out)
          ⟨front.width, front.width + covered.width⟩ e.replacement =
          .ok (front ++ (e.replacement ++ (between ++ out))) := by
        have hcut := Text.replaceSlice?_append front covered (between ++ out) e.replacement
        simp only [List.append_assoc] at hcut ⊢
        rw [Text.replace, hcut]
      have hrest : source = front ++ (covered ++ (between ++ post)) := by
        rw [hsource]
        simp only [List.append_assoc]
      rw [hspan, hreplace, List.reverse_cons, List.append_assoc]
      exact ih hrest rfl hcons
    · exact ih hsource hlimit hmade

/-- Leaving out edits that do not fit the source up to some bound makes no difference to the loop
below that bound. -/
theorem applyEach_filter (source : Text) {p : Edit → Bool} {bound limit : Nat}
    (hp : ∀ e, e.fits source bound = true → p e = true) (hlimit : limit ≤ bound) (output : Text)
    (es : List Edit) :
    applyEach source limit output (es.filter p) = applyEach source limit output es := by
  induction es generalizing limit output with
  | nil => rfl
  | cons e es ih =>
    by_cases hpe : p e = true
    · rw [List.filter_cons_of_pos hpe, applyEach, applyEach]
      split
      · rename_i hfits
        obtain ⟨hspanFits, hstop⟩ := fits_iff.mp hfits
        have hlt := hspanFits.start_lt_stop
        exact bind_congr fun output ↦ ih (by omega) output
      · exact ih hlimit _
    · have hfits : ¬ e.fits source limit = true := by
        intro hfits
        obtain ⟨hspanFits, hstop⟩ := fits_iff.mp hfits
        exact hpe (hp e (fits_iff.mpr ⟨hspanFits, Nat.le_trans hstop hlimit⟩))
      rw [List.filter_cons_of_neg hpe, applyEach, if_neg hfits]
      exact ih hlimit _

/-- Leaving out edits that do not fit the source makes no difference to a splice. -/
theorem splice_filter (source : Text) {p : Edit → Bool}
    (hp : ∀ e : Edit, e.span.Fits source → p e = true) (edits : List Edit) :
    splice source (edits.filter p) = splice source edits := by
  have hsorted := filter_sortBy_ge (fun e : Edit ↦ e.span.start) p edits
  rw [splice, splice, rightmostFirst, ← hsorted]
  exact applyEach_filter source (fun e he ↦ hp e (fits_width_iff.mp he)) (Nat.le_refl _) _ _

/-- What a splice makes of a text: the spans of the edits that are taken are replaced. -/
theorem exists_replaces_splice (source : Text) (edits : List Edit) :
    ∃ output, splice source edits = .ok output ∧
      Replaces 0 (taken source source.width (rightmostFirst edits)).reverse source output := by
  have hloop := exists_replaces_applyEach source (rightmostFirst edits)
    (List.append_nil source).symm rfl (Replaces.copy source.width [])
  rwa [List.append_nil, List.append_nil] at hloop

/-- The text that a splice makes. -/
def spliced (source : Text) (edits : List Edit) : Text :=
  (splice source edits).toOption.getD source

/-- Every step of a splice can be carried out. -/
theorem splice_eq (source : Text) (edits : List Edit) :
    splice source edits = .ok (spliced source edits) := by
  obtain ⟨output, houtput, -⟩ := exists_replaces_splice source edits
  rw [spliced, houtput]
  rfl

/-- The edits that are taken, from the left to the right, are the ones that are made. -/
theorem replaces_spliced (source : Text) (edits : List Edit) :
    Replaces 0 (taken source source.width (rightmostFirst edits)).reverse source
      (spliced source edits) := by
  obtain ⟨output, houtput, hreplaces⟩ := exists_replaces_splice source edits
  rw [splice_eq] at houtput
  exact Except.ok.inj houtput ▸ hreplaces

/-- Edits that differ by some that do not fit the text make the same of it. -/
theorem spliced_eq_of_filter_eq {source : Text} {p : Edit → Bool}
    (hp : ∀ e : Edit, e.span.Fits source → p e = true) {edits edits' : List Edit}
    (h : edits.filter p = edits'.filter p) : spliced source edits = spliced source edits' := by
  rw [spliced, spliced, ← splice_filter source hp edits, h, splice_filter source hp edits']

end PromptTemplate.Edit
