import PromptTemplate.Toml.Reader
import PromptTemplate.Toml.Writer
import PromptTemplate.Proofs.TextCuts

/-!
Strings that are written in TOML are read again. What stands for a character other than a quote is
read as that character whatever follows it (`ReadsEscapes.spells_escapedChar`), and only quotes
depend on what stands around them: over several lines at most two of them stand side by side, and
those at the end of the string are told from the ones that close it (`ClosesWith.read_closing`). So
each form of a text is read as the text (`readLines?_escaped`, `readLiteralLines?_append`), and with
them the value that is written in the form that was chosen for it (`readValue?_writeText`).
-/

set_option autoImplicit false
set_option relaxedAutoImplicit false

namespace PromptTemplate.Toml

/-- Whether a reader takes certain characters from a piece of text and goes on behind it. -/
def Spells (read? : Text → Option (Text × Text)) (piece chars : Text) : Prop :=
  ∀ t, read? (piece ++ t) = (read? t).map fun (s, rest) ↦ (chars ++ s, rest)

namespace Spells

variable {read? : Text → Option (Text × Text)}

theorem nil : Spells read? [] [] := by
  intro t
  rw [List.nil_append]
  exact Option.map_id'.symm

/-- What two pieces spell is spelled by both together. -/
theorem append {piece piece' chars chars' : Text} (h : Spells read? piece chars)
    (h' : Spells read? piece' chars') : Spells read? (piece ++ piece') (chars ++ chars') := by
  intro t
  rw [List.append_assoc, h, h', Option.map_map]
  simp only [Function.comp_def, List.append_assoc]

/-- A reader goes on behind a piece with what the piece spells in front. -/
theorem eq_some {piece chars t s rest : Text} (h : Spells read? piece chars)
    (ht : read? t = some (s, rest)) : read? (piece ++ t) = some (chars ++ s, rest) := by
  rw [h, ht, Option.map_some]

end Spells

/-! ### Escapes -/

theorem isControl_eq_false {c : Char} (h : needsEscape c = false) (hline : c ≠ '\n') :
    isControl c = false := by
  simp only [needsEscape, Bool.or_eq_false_iff, Bool.and_eq_false_iff, bne_eq_false_iff_eq] at h
  simp only [isControl, Bool.or_eq_false_iff, Bool.and_eq_false_iff, bne_eq_false_iff_eq]
  exact ⟨h.1.resolve_right hline, h.2⟩

/-- The escape of a control with its code is read as that control. -/
theorem exists_upperHexadecimal {c : Char} (h : c.toNat < 32 ∨ c.toNat = 127) :
    ∃ k l m n, Text.upperHexadecimal c.toNat 4 = [k, l, m, n] ∧
      codedChar? [k, l, m, n] = some c := by
  have hsmall : ∀ n, n < 32 → codedChar? (Text.upperHexadecimal n 4) = some (Char.ofNat n) := by
    decide
  have hdelete : codedChar? (Text.upperHexadecimal 127 4) = some (Char.ofNat 127) := by decide
  refine ⟨_, _, _, _, rfl, ?_⟩
  have hcoded : codedChar? (Text.upperHexadecimal c.toNat 4) = some (Char.ofNat c.toNat) := by
    rcases h with h | h
    · exact hsmall _ h
    · rw [h, hdelete]
  rw [Char.ofNat_toNat] at hcoded
  exact hcoded

/-- Whether a reader undoes escapes, and reads other characters as they stand. -/
structure ReadsEscapes (multiLine : Bool) (read? : Text → Option (Text × Text)) : Prop where
  letter : ∀ {c char}, escapeLetter? c = some char → Spells read? ['\\', c] [char]
  code : ∀ {k l m n char}, codedChar? [k, l, m, n] = some char →
    Spells read? ['\\', 'u', k, l, m, n] [char]
  plain : ∀ {c}, c ≠ '"' → c ≠ '\\' → isControl c = false → Spells read? [c] [c]
  line : multiLine = true → Spells read? ['\n'] ['\n']

/-- A character that is no quote is read from what stands for it. -/
theorem ReadsEscapes.spells_escapedChar {multiLine : Bool} {read? : Text → Option (Text × Text)}
    (h : ReadsEscapes multiLine read?) {c : Char} (hc : c ≠ '"') :
    Spells read? (escapedChar multiLine c) [c] := by
  unfold escapedChar
  split
  · exact h.letter rfl
  · exact h.letter rfl
  · split
    · exact h.line ‹_›
    · exact h.letter rfl
  · exact h.letter rfl
  · exact h.letter rfl
  · exact h.letter rfl
  · rename_i hback
    split
    · rename_i hcontrol
      obtain ⟨k, l, m, n, hdigits, hcoded⟩ :=
        exists_upperHexadecimal (c := c) (by simpa using hcontrol)
      rw [hdigits]
      exact h.code hcoded
    · rename_i hcontrol
      have hplain : isControl c = false := by
        simp only [Bool.or_eq_true, decide_eq_true_eq, beq_iff_eq, not_or] at hcontrol
        simp [isControl, hcontrol]
      exact h.plain hc hback hplain

/-- What stands for a character that is no quote begins with none. -/
theorem exists_cons_escapedChar (multiLine : Bool) {c : Char} (hc : c ≠ '"') :
    ∃ d piece, escapedChar multiLine c = d :: piece ∧ d ≠ '"' := by
  unfold escapedChar
  split
  · exact ⟨_, _, rfl, by decide⟩
  · exact ⟨_, _, rfl, by decide⟩
  · cases multiLine
    · exact ⟨_, _, rfl, by decide⟩
    · exact ⟨_, _, rfl, by decide⟩
  · exact ⟨_, _, rfl, by decide⟩
  · exact ⟨_, _, rfl, by decide⟩
  · exact ⟨_, _, rfl, by decide⟩
  · split
    · exact ⟨_, _, rfl, by decide⟩
    · exact ⟨_, _, rfl, hc⟩

/-! ### Strings in one line -/

theorem readsEscapes_readBasic? : ReadsEscapes false readBasic? where
  letter {c char} h t := by
    unfold escapeLetter? at h
    split at h <;> cases h <;> rfl
  code {k l m n char} h t := by
    change (codedChar? [k, l, m, n]).bind _ = _
    rw [h]
    rfl
  plain {c} hquote hback hcontrol t := by
    change readBasic? (c :: t) = _
    rw [readBasic?]
    · simp [hcontrol, hback]
    · exact hquote
    · exact fun _ _ _ h _ ↦ hback h
    · exact fun _ _ _ _ _ h _ ↦ hback h
    · exact fun _ _ _ _ _ _ _ _ _ h _ ↦ hback h
    · exact fun _ _ h _ ↦ hback h
  line h := absurd h Bool.false_ne_true

/-- Escaped text spells the text. -/
theorem spells_escaped (run : Nat) (s : Text) : Spells readBasic? (escaped false run s) s := by
  induction s generalizing run with
  | nil => exact Spells.nil
  | cons c s ih =>
    rw [escaped]
    split
    · rename_i hquote
      subst hquote
      exact (readsEscapes_readBasic?.letter rfl).append (ih 0)
    · rename_i hquote
      exact (readsEscapes_readBasic?.spells_escapedChar hquote).append (ih 0)

/-- A text between double quotes, with escapes, is read. -/
theorem readBasic?_escaped (run : Nat) (s t : Text) :
    readBasic? (escaped false run s ++ '"' :: t) = some (s, t) := by
  have hquote : readBasic? ('"' :: t) = some ([], t) := rfl
  rw [(spells_escaped run s).eq_some hquote, List.append_nil]

/-- A text between single quotes is read as it stands. -/
theorem readLiteral?_append {s : Text} (h : ∀ c ∈ s, needsEscape c = false ∧ c ≠ '\n' ∧ c ≠ '\'')
    (t : Text) : readLiteral? (s ++ '\'' :: t) = some (s, t) := by
  induction s with
  | nil => rfl
  | cons c s ih =>
    obtain ⟨hescape, hline, hquote⟩ := h c List.mem_cons_self
    rw [List.cons_append, readLiteral?, isControl_eq_false hescape hline,
      if_neg Bool.false_ne_true, ih fun d hd ↦ h d (List.mem_cons_of_mem _ hd)]
    · rfl
    · exact hquote

/-! ### Strings over several lines -/

theorem readsEscapes_readLines? : ReadsEscapes true (readLines? false) where
  letter {c char} h t := by
    unfold escapeLetter? at h
    split at h <;> cases h <;> (rw [List.cons_append, readLines?.eq_def]; rfl)
  code {k l m n char} h t := by
    change (codedChar? [k, l, m, n]).bind _ = _
    rw [h]
    rfl
  plain {c} hquote hback hcontrol t := by
    have hreturn : c ≠ '\r' := by
      rintro rfl
      exact absurd hcontrol (by decide)
    rw [List.singleton_append, readLines?.eq_def]
    simp only [Bool.false_and, Bool.false_eq_true, ↓reduceIte, hquote, hback, hreturn, hcontrol]
    rfl
  line h t := by
    rw [List.singleton_append, readLines?.eq_def]
    rfl

/-! ### Quotes over several lines -/

/-- Three quotes close a string over several lines, or the last three of five at most, and any
other quote belongs to it. -/
structure ClosesWith (read? : Text → Option (Text × Text)) (quote : Char) : Prop where
  read_one : ∀ t : Text, t.take 2 ≠ [quote, quote] →
    read? (quote :: t) = (read? t).map fun (s, rest) ↦ (quote :: s, rest)
  read_three : ∀ t, read? (quote :: quote :: quote :: t) = some (readClosing quote t)

namespace ClosesWith

variable {read? : Text → Option (Text × Text)} {quote : Char} {run : Nat}

/-- At most two quotes before something else belong to the string. -/
theorem read_quotes (h : ClosesWith read? quote) (hrun : run ≤ 2) {d : Char} (hd : d ≠ quote)
    (t : Text) : read? (List.replicate run quote ++ d :: t) =
      (read? (d :: t)).map fun (s, rest) ↦ (List.replicate run quote ++ s, rest) := by
  have hone : read? (quote :: d :: t) =
      (read? (d :: t)).map fun (s, rest) ↦ (quote :: s, rest) :=
    h.read_one _ (by cases t <;> simp [hd])
  obtain rfl | rfl | rfl : run = 0 ∨ run = 1 ∨ run = 2 := by omega
  · exact Option.map_id'.symm
  · exact hone
  · have htwo : read? (quote :: quote :: d :: t) =
        (read? (quote :: d :: t)).map fun (s, rest) ↦ (quote :: s, rest) :=
      h.read_one _ (by simp [hd])
    rw [hone, Option.map_map] at htwo
    exact htwo

/-- Behind three closing quotes up to two more are the end of the string. -/
theorem readClosing_replicate (hrun : run ≤ 2) {t : Text} (ht : t.head? ≠ some quote) :
    readClosing quote (List.replicate run quote ++ t) = (List.replicate run quote, t) := by
  have hstop : ∀ n, (t.take n).takeWhile (· == quote) = [] := by
    intro n
    cases n with
    | zero => rfl
    | succ n =>
      cases t with
      | nil => rfl
      | cons c t => rw [List.take_succ_cons, List.takeWhile_cons_of_neg (by simpa using ht)]
  obtain rfl | rfl | rfl : run = 0 ∨ run = 1 ∨ run = 2 := by omega
  · simp [readClosing, hstop]
  · simp [readClosing, hstop]
  · simp [readClosing]

/-- Quotes before the closing ones belong to the string, if there are two at most. -/
theorem read_closing (h : ClosesWith read? quote) (hrun : run ≤ 2) {t : Text}
    (ht : t.head? ≠ some quote) :
    read? (List.replicate run quote ++ (quote :: quote :: quote :: t)) =
      some (List.replicate run quote, t) := by
  have hfirst : List.replicate run quote ++ (List.replicate 3 quote ++ t) =
      List.replicate 3 quote ++ (List.replicate run quote ++ t) := by
    rw [← List.append_assoc, List.replicate_append_replicate, Nat.add_comm,
      ← List.replicate_append_replicate, List.append_assoc]
  calc read? (List.replicate run quote ++ (List.replicate 3 quote ++ t))
      = read? (List.replicate 3 quote ++ (List.replicate run quote ++ t)) := by rw [hfirst]
    _ = some (readClosing quote (List.replicate run quote ++ t)) := h.read_three _
    _ = some (List.replicate run quote, t) := by rw [readClosing_replicate hrun ht]

end ClosesWith

/-- Basic strings of several lines end with three quotes. -/
theorem closesWith_readLines? : ClosesWith (readLines? false) '"' where
  read_one t h := by
    rw [readLines?.eq_def]
    simp only [Bool.false_and, Bool.false_eq_true, ↓reduceIte, Char.reduceEq]
    split
    · exact absurd rfl h
    · rfl
  read_three t := rfl

/-- A text between three double quotes, with escapes, is read from behind some quotes that were
read already. -/
theorem readLines?_escaped {run : Nat} (hrun : run ≤ 2) (s : Text) {t : Text}
    (ht : t.head? ≠ some '"') :
    readLines? false (List.replicate run '"' ++ (escaped true run s ++ '"' :: '"' :: '"' :: t)) =
      some (List.replicate run '"' ++ s, t) := by
  induction s generalizing run with
  | nil =>
    rw [escaped, List.nil_append, closesWith_readLines?.read_closing hrun ht, List.append_nil]
  | cons c s ih =>
    rw [escaped]
    split
    · rename_i hquote
      subst hquote
      split
      · rename_i hlt
        have hlt : run < 2 := by simpa using hlt
        have hmore := ih (by omega : run + 1 ≤ 2)
        rw [List.replicate_succ', List.append_assoc, List.append_assoc] at hmore
        exact hmore
      · have hrest := (readsEscapes_readLines?.letter (c := '"') rfl).eq_some
          (ih (Nat.zero_le 2))
        rw [List.cons_append, List.cons_append,
          closesWith_readLines?.read_quotes hrun (by decide)]
        exact congrArg (Option.map _) hrest
    · rename_i hquote
      obtain ⟨d, piece, hpiece, hd⟩ := exists_cons_escapedChar true hquote
      have hrest := (readsEscapes_readLines?.spells_escapedChar hquote).eq_some (ih (Nat.zero_le 2))
      rw [hpiece] at hrest ⊢
      rw [List.append_assoc, List.cons_append, closesWith_readLines?.read_quotes hrun hd]
      exact congrArg (Option.map _) hrest

theorem readLiteralLines?_cons {c : Char} {t : Text} (hreturn : c ≠ '\r')
    (hcontrol : (isControl c && c != '\n') = false)
    (hquotes : ∀ u, c :: t ≠ '\'' :: '\'' :: '\'' :: u) :
    readLiteralLines? (c :: t) =
      (readLiteralLines? t).map fun (s, rest) ↦ (c :: s, rest) := by
  rw [readLiteralLines?]
  · rw [hcontrol, if_neg Bool.false_ne_true]
  · exact fun u hc ht ↦ hquotes u (by rw [hc, ht])
  · exact fun _ hc _ ↦ hreturn hc

/-- Literal strings of several lines end with three quotes. -/
theorem closesWith_readLiteralLines? : ClosesWith readLiteralLines? '\'' where
  read_one t h := readLiteralLines?_cons (by decide) (by decide) fun u hu ↦ by
    rw [(List.cons.inj hu).2] at h
    exact h rfl
  read_three t := rfl

/-- The longest run is no shorter than the one at the head. -/
theorem le_longestRun (c : Char) (run : Nat) (s : Text) : run ≤ longestRun c run s := by
  induction s generalizing run with
  | nil => exact Nat.le_refl run
  | cons d s ih =>
    rw [longestRun]
    split
    · exact Nat.le_of_succ_le (ih (run + 1))
    · exact Nat.le_max_left _ _

/-- A text between three single quotes is read as it stands, from behind some quotes that were
read already. -/
theorem readLiteralLines?_append {run : Nat} {s : Text} (hrun : longestRun '\'' run s ≤ 2)
    (hs : ∀ c ∈ s, needsEscape c = false) {t : Text} (ht : t.head? ≠ some '\'') :
    readLiteralLines? (List.replicate run '\'' ++ (s ++ '\'' :: '\'' :: '\'' :: t)) =
      some (List.replicate run '\'' ++ s, t) := by
  have hle : run ≤ 2 := Nat.le_trans (le_longestRun _ run s) hrun
  induction s generalizing run with
  | nil =>
    rw [List.nil_append, closesWith_readLiteralLines?.read_closing hle ht, List.append_nil]
  | cons c s ih =>
    have hs' : ∀ c ∈ s, needsEscape c = false := fun d hd ↦ hs d (List.mem_cons_of_mem _ hd)
    have hc : needsEscape c = false := hs c List.mem_cons_self
    rw [longestRun] at hrun
    split at hrun
    · rename_i hquote
      subst hquote
      have hmore := ih hrun hs' (Nat.le_trans (le_longestRun _ _ s) hrun)
      rw [List.replicate_succ', List.append_assoc, List.append_assoc] at hmore
      exact hmore
    · rename_i hquote
      have hrest : readLiteralLines? (s ++ '\'' :: '\'' :: '\'' :: t) = some (s, t) :=
        ih (Nat.le_trans (Nat.le_max_right _ _) hrun) hs' (by omega)
      have hreturn : c ≠ '\r' := by
        rintro rfl
        exact absurd hc (by decide)
      have hcontrol : (isControl c && c != '\n') = false := by
        by_cases hline : c = '\n'
        · rw [hline]
          rfl
        · rw [isControl_eq_false hc hline, Bool.false_and]
      rw [List.cons_append, closesWith_readLiteralLines?.read_quotes hle hquote,
        readLiteralLines?_cons hreturn hcontrol fun u hu ↦ hquote (List.cons.inj hu).1, hrest]
      rfl

/-! ### Whole strings -/

/-- What a form must hold without escapes to be a form of a text. -/
def StringForm.Fits (form : StringForm) (s : Text) : Prop :=
  match form with
  | .basic => True
  | .multiLineBasic => True
  | .literal => ∀ c ∈ s, needsEscape c = false ∧ c ≠ '\n' ∧ c ≠ '\''
  | .multiLineLiteral => (∀ c ∈ s, needsEscape c = false) ∧ longestRun '\'' 0 s ≤ 2

/-- A form that holds a text plainly fits it. -/
theorem StringForm.fits_of_holdsPlainly {form : StringForm} {s : Text}
    (h : form.holdsPlainly s = true) : form.Fits s := by
  rw [holdsPlainly.eq_def, Bool.and_eq_true, Bool.not_eq_true', List.any_eq_false] at h
  obtain ⟨hescape, h⟩ := h
  have hescape : ∀ c ∈ s, needsEscape c = false := fun c hc ↦ Bool.eq_false_iff.mpr (hescape c hc)
  cases form with
  | basic => trivial
  | multiLineBasic => trivial
  | literal =>
    have h : '\'' ∉ s ∧ '\n' ∉ s := by simpa using h
    exact fun c hc ↦ ⟨hescape c hc, fun hline ↦ h.2 (hline ▸ hc), fun hquote ↦ h.1 (hquote ▸ hc)⟩
  | multiLineLiteral => exact ⟨hescape, by simpa using h⟩

/-- The form that is chosen for a text can hold it. -/
theorem StringForm.fits_ofText (s : Text) : (ofText s).Fits s := by
  rw [ofText]
  split
  · rename_i form hform
    exact fits_of_holdsPlainly
      (List.find?_some (p := fun form : StringForm ↦ form.holdsPlainly s) hform)
  · split
    · trivial
    · trivial

/-- Nothing that stands for a text over several lines begins with the end of a line, unless the
text has one. -/
theorem head?_escaped_ne_line {s : Text} (hs : '\n' ∉ s) :
    (escaped true 0 s).head? ≠ some '\n' ∧ (escaped true 0 s).head? ≠ some '\r' := by
  cases s with
  | nil => exact ⟨by decide, by decide⟩
  | cons c s =>
    have hline : c ≠ '\n' := fun h ↦ hs (h ▸ List.mem_cons_self)
    rw [escaped]
    split
    · exact ⟨by simp, by simp⟩
    · unfold escapedChar
      split <;> simp_all
      split <;> simp_all

theorem head?_escaped_ne_quote (s : Text) : (escaped false 0 s).head? ≠ some '"' := by
  cases s with
  | nil => decide
  | cons c s =>
    rw [escaped]
    split
    · simp
    · rename_i hc
      obtain ⟨d, piece, hpiece, hd⟩ := exists_cons_escapedChar false hc
      simp [hpiece, hd]

/-- The end of a line that opens a text with ends of lines is passed over, and nothing of a text
without one is. -/
theorem skipFirstNewLine_opening {s inner : Text} (quotes : Text)
    (h : '\n' ∉ s → inner.head? ≠ some '\n' ∧ inner.head? ≠ some '\r')
    (hquotes : quotes.head? ≠ some '\n' ∧ quotes.head? ≠ some '\r') :
    skipFirstNewLine ((if s.contains '\n' then ['\n'] else []) ++ (inner ++ quotes)) =
      inner ++ quotes := by
  split
  · rfl
  · rename_i hline
    have hnone : afterNewLine? (inner ++ quotes) = none := by
      have hinner := h (by simpa using hline)
      cases inner with
      | nil =>
        rw [List.nil_append, afterNewLine?.eq_def]
        split <;> simp_all
      | cons c inner =>
        rw [List.cons_append, afterNewLine?.eq_def]
        split <;> simp_all
    rw [List.nil_append, skipFirstNewLine, hnone, Option.getD_none]

theorem take_two_ne {quote : Char} {s t : Text} (hs : s.head? ≠ some quote)
    (ht : t.head? ≠ some quote) : (s ++ quote :: t).take 2 ≠ [quote, quote] := by
  cases s with
  | nil =>
    cases t with
    | nil => simp
    | cons c t => simpa using ht
  | cons c s => exact fun h ↦ hs (congrArg List.head? h)

/-- A single quote that opens a basic string is followed by a string on one line. -/
theorem readValue?_basic {fuel depth : Nat} {t s rest : Text} (h : t.take 2 ≠ ['"', '"'])
    (hread : readBasic? t = some (s, rest)) :
    readValue? (fuel + 1) depth ('"' :: t) = some (.text s, rest) := by
  rw [readValue?]
  · rw [hread, Option.map_some]
  · intro u hu
    rw [hu] at h
    exact h rfl

/-- A single quote that opens a literal string is followed by a string on one line. -/
theorem readValue?_literal {fuel depth : Nat} {t s rest : Text} (h : t.take 2 ≠ ['\'', '\''])
    (hread : readLiteral? t = some (s, rest)) :
    readValue? (fuel + 1) depth ('\'' :: t) = some (.text s, rest) := by
  rw [readValue?]
  · rw [hread, Option.map_some]
  · intro u hu
    rw [hu] at h
    exact h rfl

theorem writeIn_basic (s t : Text) :
    writeIn .basic s ++ t = '"' :: (escaped false 0 s ++ '"' :: t) := by
  simp [writeIn, StringForm.quote, StringForm.isMultiLine]

theorem writeIn_literal (s t : Text) : writeIn .literal s ++ t = '\'' :: (s ++ '\'' :: t) := by
  simp [writeIn, StringForm.quote, StringForm.isMultiLine]

/-- A text in a form that can hold it is read as a value, whatever follows that is no quote. -/
theorem readValue?_writeIn {form : StringForm} {s : Text} (hform : form.Fits s) {t : Text}
    (hdouble : t.head? ≠ some '"') (hsingle : t.head? ≠ some '\'') (fuel depth : Nat) :
    readValue? (fuel + 1) depth (writeIn form s ++ t) = some (.text s, t) := by
  cases form with
  | basic =>
    rw [writeIn_basic]
    exact readValue?_basic (take_two_ne (head?_escaped_ne_quote s) hdouble)
      (readBasic?_escaped 0 s t)
  | literal =>
    have hfirst : s.head? ≠ some '\'' := fun h ↦ (hform _ (List.mem_of_mem_head? h)).2.2 rfl
    rw [writeIn_literal]
    exact readValue?_literal (take_two_ne hfirst hsingle) (readLiteral?_append hform t)
  | multiLineBasic =>
    have hwritten : writeIn .multiLineBasic s ++ t =
        '"' :: '"' :: '"' :: ((if s.contains '\n' then ['\n'] else []) ++
          (escaped true 0 s ++ '"' :: '"' :: '"' :: t)) := by
      simp [writeIn, StringForm.quote, StringForm.isMultiLine]
    have hread : readLines? false (escaped true 0 s ++ '"' :: '"' :: '"' :: t) = some (s, t) :=
      readLines?_escaped (Nat.zero_le 2) s hdouble
    rw [hwritten, readValue?, skipFirstNewLine_opening _ head?_escaped_ne_line (by simp), hread,
      Option.map_some]
  | multiLineLiteral =>
    have hwritten : writeIn .multiLineLiteral s ++ t =
        '\'' :: '\'' :: '\'' :: ((if s.contains '\n' then ['\n'] else []) ++
          (s ++ '\'' :: '\'' :: '\'' :: t)) := by
      simp [writeIn, StringForm.quote, StringForm.isMultiLine]
    have hfirst : '\n' ∉ s → s.head? ≠ some '\n' ∧ s.head? ≠ some '\r' := fun hline ↦
      ⟨fun h ↦ hline (List.mem_of_mem_head? h),
        fun h ↦ absurd (hform.1 _ (List.mem_of_mem_head? h)) (by decide)⟩
    have hread : readLiteralLines? (s ++ '\'' :: '\'' :: '\'' :: t) = some (s, t) :=
      readLiteralLines?_append hform.2 hform.1 hsingle
    rw [hwritten, readValue?, skipFirstNewLine_opening _ hfirst (by simp), hread,
      Option.map_some]

/-- A text is read from what is written for it. -/
theorem readValue?_writeText (s : Text) {t : Text} (hdouble : t.head? ≠ some '"')
    (hsingle : t.head? ≠ some '\'') (fuel depth : Nat) :
    readValue? (fuel + 1) depth (writeText s ++ t) = some (.text s, t) :=
  readValue?_writeIn (StringForm.fits_ofText s) hdouble hsingle fuel depth

end PromptTemplate.Toml
