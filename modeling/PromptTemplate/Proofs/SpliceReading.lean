import PromptTemplate.Proofs.Replacing
import PromptTemplate.Proofs.StableSorting

/-!
Splicing as reading. `Edit.readThrough` reads a text once from left to right: where an edit starts
it writes the replacement and passes over the bytes of the span, and it copies every other
character. A text whose spans are replaced is what reading through the edits writes
(`Replaces.eq_readThrough`), and edits that fit a text and share no byte are all made by a splice
of it, so the splice is what reading through them writes (`splice_eq_readThrough`).
-/

set_option autoImplicit false
set_option relaxedAutoImplicit false

namespace PromptTemplate.Edit

/-- The text with replacements for the spans of edits, read from an offset on. Characters before
the place to resume at are passed over. -/
def readThrough (edits : List Edit) (offset resume : Nat) : Text → Text
  | [] => []
  | c :: t =>
    if offset < resume then readThrough edits (offset + c.utf8Size) resume t
    else
      match edits.find? fun e ↦ e.span.start == offset with
      | some e => e.replacement ++ readThrough edits (offset + c.utf8Size) e.span.stop t
      | none => c :: readThrough edits (offset + c.utf8Size) resume t

/-! ### Reading piece by piece -/

variable {edits : List Edit}

/-- Which place to resume at does not matter once it is reached. -/
theorem readThrough_resume {offset resume resume' : Nat} (h : resume ≤ offset)
    (h' : resume' ≤ offset) (t : Text) :
    readThrough edits offset resume t = readThrough edits offset resume' t := by
  induction t generalizing offset with
  | nil => rfl
  | cons c t ih =>
    have hrest := @ih (offset + c.utf8Size) (by omega) (by omega)
    simp only [readThrough, Nat.not_lt.mpr h, Nat.not_lt.mpr h', ↓reduceIte, hrest]

/-- What lies before the end of an edit is not copied. -/
theorem readThrough_skip (s t : Text) {offset resume : Nat} (h : offset + s.width ≤ resume) :
    readThrough edits offset resume (s ++ t) =
      readThrough edits (offset + s.width) resume t := by
  induction s generalizing offset with
  | nil => rfl
  | cons c s ih =>
    have hc := Char.utf8Size_pos c
    rw [Text.width_cons] at h
    rw [List.cons_append, readThrough, if_pos (by omega), ih (by omega), Text.width_cons,
      Nat.add_assoc]

/-- Where no edit starts the text is copied. -/
theorem readThrough_copy (s : Text) {offset resume : Nat} (hresume : resume ≤ offset)
    (h : ∀ e ∈ edits, e.span.start < offset ∨ offset + s.width ≤ e.span.start) :
    readThrough edits offset resume s = s := by
  induction s generalizing offset with
  | nil => rfl
  | cons c s ih =>
    have hc := Char.utf8Size_pos c
    rw [Text.width_cons] at h
    have hnone : edits.find? (fun e ↦ e.span.start == offset) = none := by
      apply List.find?_eq_none.mpr
      intro e he
      rw [beq_iff_eq]
      rcases h e he with h | h <;> omega
    rw [readThrough, if_neg (by omega), hnone]
    dsimp only
    rw [ih (by omega) fun e he ↦ ?_]
    rcases h e he with h | h
    · exact Or.inl (by omega)
    · exact Or.inr (by omega)

/-- What is read depends only on the edits that start in the text. -/
theorem readThrough_congr {edits' : List Edit} (t : Text) {offset resume : Nat}
    (h : ∀ n, offset ≤ n → n < offset + t.width →
      edits.find? (fun e ↦ e.span.start == n) = edits'.find? fun e ↦ e.span.start == n) :
    readThrough edits offset resume t = readThrough edits' offset resume t := by
  induction t generalizing offset resume with
  | nil => rfl
  | cons c t ih =>
    have hc := Char.utf8Size_pos c
    rw [Text.width_cons] at h
    have hrest : ∀ resume', readThrough edits (offset + c.utf8Size) resume' t =
        readThrough edits' (offset + c.utf8Size) resume' t :=
      fun resume' ↦ ih fun n hle hlt ↦ h n (by omega) (by omega)
    simp only [readThrough, hrest, h offset (Nat.le_refl _) (by omega)]

/-- A text can be read in two parts, if no edit reaches across the cut. -/
theorem readThrough_append (s t : Text) {offset resume : Nat}
    (hresume : resume ≤ offset + s.width)
    (h : ∀ e ∈ edits, e.span.start < offset + s.width → e.span.stop ≤ offset + s.width) :
    readThrough edits offset resume (s ++ t) =
      readThrough edits offset resume s ++ readThrough edits (offset + s.width) 0 t := by
  induction s generalizing offset resume with
  | nil => exact readThrough_resume hresume (Nat.zero_le _) t
  | cons c s ih =>
    have hc := Char.utf8Size_pos c
    rw [Text.width_cons, ← Nat.add_assoc] at hresume h ⊢
    rw [List.cons_append, readThrough, readThrough]
    split
    · exact ih hresume h
    · split
      · rename_i e he
        have hstart : e.span.start = offset := by simpa using List.find?_some he
        have hstop := h e (List.mem_of_find?_eq_some he) (by omega)
        rw [ih hstop h, List.append_assoc]
      · rw [ih hresume h, List.cons_append]

/-- Where an edit starts its replacement stands for the characters that its span covers. -/
theorem readThrough_edit {e : Edit} (m t : Text) (hm : m ≠ []) {offset resume : Nat}
    (hresume : resume ≤ offset) (hspan : e.span = ⟨offset, offset + m.width⟩)
    (hfind : edits.find? (fun e ↦ e.span.start == offset) = some e) :
    readThrough edits offset resume (m ++ t) =
      e.replacement ++ readThrough edits (offset + m.width) 0 t := by
  obtain ⟨c, s, rfl⟩ := List.exists_cons_of_ne_nil hm
  rw [List.cons_append, readThrough, if_neg (Nat.not_lt.mpr hresume), hfind]
  dsimp only
  rw [hspan, Text.width_cons, ← Nat.add_assoc, readThrough_skip s t (Nat.le_refl _),
    readThrough_resume (Nat.le_refl _) (Nat.zero_le _)]

/-- A text can be read at its own offsets or at those of a text that it is part of. -/
theorem readThrough_shift (t : Text) (origin offset resume : Nat) :
    readThrough (edits.map (·.shift origin)) (offset + origin) (resume + origin) t =
      readThrough edits offset resume t := by
  induction t generalizing offset resume with
  | nil => rfl
  | cons c t ih =>
    have hfind : (edits.map (·.shift origin)).find? (fun e ↦ e.span.start == offset + origin) =
        (edits.find? fun e ↦ e.span.start == offset).map (·.shift origin) := by
      rw [List.find?_map]
      congr 2
      funext e
      simp [shift, Span.shift]
    have hlt : offset + origin < resume + origin ↔ offset < resume := by omega
    have hnext : offset + origin + c.utf8Size = offset + c.utf8Size + origin := by omega
    simp only [readThrough, hfind, hlt, hnext, ih]
    cases edits.find? fun e ↦ e.span.start == offset with
    | none => rfl
    | some e =>
      have hstop := ih (offset + c.utf8Size) e.span.stop
      simp only [Option.map_some, shift, Span.shift] at hstop ⊢
      rw [← hstop]

/-- What a text becomes when spans of it are replaced is what reading through the edits writes. -/
theorem Replaces.eq_readThrough {offset : Nat} {t out : Text}
    (h : Replaces offset edits t out) : out = readThrough edits offset 0 t := by
  induction h with
  | copy offset kept => exact (readThrough_copy kept (Nat.zero_le _) (by simp)).symm
  | @edit offset e edits kept covered t out hcovered hspan hrest ih =>
    have hpos := Text.width_pos hcovered
    have hstart : e.span.start = offset + kept.width := by rw [hspan]
    have hbehind : ∀ e' ∈ edits, offset + kept.width + covered.width ≤ e'.span.start := by
      intro e' he'
      obtain ⟨pre, covered', post, -, -, hspan'⟩ := hrest.of_mem he'
      rw [hspan']
      exact Nat.le_add_right _ _
    have hle : ∀ e' ∈ e :: edits, offset + kept.width ≤ e'.span.start := by
      intro e' he'
      rcases List.mem_cons.mp he' with rfl | he'
      · exact Nat.le_of_eq hstart.symm
      · exact Nat.le_of_add_right_le (hbehind e' he')
    have hkept : readThrough (e :: edits) offset 0 kept = kept :=
      readThrough_copy kept (Nat.zero_le _) fun e' he' ↦ Or.inr (hle e' he')
    have hfind : (e :: edits).find? (fun e' ↦ e'.span.start == offset + kept.width) = some e :=
      List.find?_cons_of_pos (beq_iff_eq.mpr hstart)
    have hrest' : readThrough (e :: edits) (offset + kept.width + covered.width) 0 t = out := by
      rw [ih]
      refine readThrough_congr t fun n hn _ ↦ List.find?_cons_of_neg ?_
      rw [beq_iff_eq]
      omega
    rw [readThrough_append kept _ (Nat.zero_le _) fun e' he' hlt ↦ absurd (hle e' he') (by omega),
      hkept, readThrough_edit covered t hcovered (Nat.zero_le _) hspan hfind, hrest']

/-! ### Edits that are apart -/

/-- Edits that cover whole characters of a text, of which any two are the same or are apart. -/
structure Separate (source : Text) (edits : List Edit) : Prop where
  fits : ∀ e ∈ edits, e.span.Fits source
  eq_or_apart : ∀ e ∈ edits, ∀ e' ∈ edits, e = e' ∨ e.span.Apart e'.span

theorem Separate.congr {source : Text} {edits' : List Edit} (h : Separate source edits)
    (hmem : ∀ e, e ∈ edits' ↔ e ∈ edits) : Separate source edits' where
  fits e he := h.fits e ((hmem e).mp he)
  eq_or_apart e he e' he' := h.eq_or_apart e ((hmem e).mp he) e' ((hmem e').mp he')

/-- Separate edits that start together are the same. -/
theorem Separate.eq_of_start_eq {source : Text} (h : Separate source edits) {e e' : Edit}
    (he : e ∈ edits) (he' : e' ∈ edits) (hstart : e.span.start = e'.span.start) : e = e' := by
  rcases h.eq_or_apart e he e' he' with heq | hapart
  · exact heq
  · exact absurd hstart
      (hapart.start_ne (h.fits e he).start_lt_stop (h.fits e' he').start_lt_stop)

/-- Separate edits from the right to the left are all made that stop before the limit. An edit
that is listed again reaches into the one that was made and is left out. -/
theorem mem_taken_iff {source : Text} {es : List Edit} (h : Separate source es)
    (hes : es.Pairwise fun e e' ↦ e'.span.start ≤ e.span.start) {limit : Nat} {e : Edit} :
    e ∈ taken source limit es ↔ e ∈ es ∧ e.span.stop ≤ limit := by
  induction es generalizing limit with
  | nil => simp [taken]
  | cons first rest ih =>
    obtain ⟨hfirst, hrest⟩ := List.pairwise_cons.mp hes
    have hseparate : Separate source rest :=
      ⟨fun e he ↦ h.fits e (List.mem_cons_of_mem _ he),
        fun e he e' he' ↦ h.eq_or_apart e (List.mem_cons_of_mem _ he) e'
          (List.mem_cons_of_mem _ he')⟩
    have hfits := h.fits first List.mem_cons_self
    have hlt := hfits.start_lt_stop
    rw [taken, List.mem_cons]
    split
    · rename_i hlimit
      rw [List.mem_cons, ih hseparate hrest]
      constructor
      · rintro (rfl | ⟨he, hstop⟩)
        · exact ⟨Or.inl rfl, (fits_iff.mp hlimit).2⟩
        · have hle := (fits_iff.mp hlimit).2
          exact ⟨Or.inr he, by omega⟩
      · rintro ⟨rfl | he, hstop⟩
        · exact Or.inl rfl
        · have hle := hfirst e he
          have hlt' := (hseparate.fits e he).start_lt_stop
          rcases h.eq_or_apart e (List.mem_cons_of_mem _ he) first List.mem_cons_self with
            heq | hapart | hapart
          · exact Or.inl heq
          · exact Or.inr ⟨he, hapart⟩
          · omega
    · rename_i hlimit
      rw [ih hseparate hrest]
      constructor
      · rintro ⟨he, hstop⟩
        exact ⟨Or.inr he, hstop⟩
      · rintro ⟨rfl | he, hstop⟩
        · exact absurd (fits_iff.mpr ⟨hfits, hstop⟩) hlimit
        · exact ⟨he, hstop⟩

/-- What is read does not depend on the order of the edits or on repetitions, if no two edits
start together. -/
theorem readThrough_congr_of_mem_iff {edits' : List Edit} (hmem : ∀ e, e ∈ edits ↔ e ∈ edits')
    (hstart : ∀ e ∈ edits, ∀ e' ∈ edits, e.span.start = e'.span.start → e = e')
    (offset resume : Nat) (t : Text) :
    readThrough edits offset resume t = readThrough edits' offset resume t := by
  refine readThrough_congr t fun n _ _ ↦ ?_
  cases hfind : edits.find? fun e ↦ e.span.start == n with
  | none =>
    refine (List.find?_eq_none.mpr fun e he ↦ ?_).symm
    exact List.find?_eq_none.mp hfind e ((hmem e).mpr he)
  | some e =>
    have he := List.mem_of_find?_eq_some hfind
    have hen : e.span.start = n := by simpa using List.find?_some hfind
    cases hfind' : edits'.find? fun e ↦ e.span.start == n with
    | none =>
      have hne := List.find?_eq_none.mp hfind' e ((hmem e).mp he)
      exact absurd (beq_iff_eq.mpr hen) hne
    | some e' =>
      have he' := (hmem e').mpr (List.mem_of_find?_eq_some hfind')
      have hen' : e'.span.start = n := by simpa using List.find?_some hfind'
      rw [hstart e he e' he' (hen.trans hen'.symm)]

/-- Separate edits are all made, whatever their order. -/
theorem spliced_eq_readThrough {source : Text} (h : Separate source edits) :
    spliced source edits = readThrough edits 0 0 source := by
  have hmem : ∀ e, e ∈ rightmostFirst edits ↔ e ∈ edits := fun e ↦ mem_sortBy
  have hsorted : (rightmostFirst edits).Pairwise fun e e' ↦ e'.span.start ≤ e.span.start :=
    pairwise_sortBy_ge (fun e : Edit ↦ e.span.start) edits
  have hseparate : Separate source (rightmostFirst edits) := h.congr hmem
  have htaken : ∀ e, e ∈ edits ↔ e ∈ taken source source.width (rightmostFirst edits) := by
    intro e
    rw [mem_taken_iff hseparate hsorted, hmem]
    exact ⟨fun he ↦ ⟨he, (h.fits e he).stop_le_width⟩, And.left⟩
  have hreversed : ∀ e, e ∈ edits ↔
      e ∈ (taken source source.width (rightmostFirst edits)).reverse := by
    intro e
    rw [htaken, List.mem_reverse]
  rw [(replaces_spliced source edits).eq_readThrough]
  exact (readThrough_congr_of_mem_iff hreversed (fun e he e' he' ↦ h.eq_of_start_eq he he') 0 0
    source).symm

/-- Splicing separate edits is reading through the text once and writing their replacements. -/
theorem splice_eq_readThrough {source : Text} (h : Separate source edits) :
    splice source edits = .ok (readThrough edits 0 0 source) := by
  rw [splice_eq, spliced_eq_readThrough h]

end PromptTemplate.Edit
