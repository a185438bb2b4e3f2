import Mathlib.Data.List.DropRight
import PromptTemplate.Command.Inspection
import PromptTemplate.Proofs.Findings
import PromptTemplate.Proofs.WrittenDeclarations

/-!
Locations of byte offsets. The location of an offset between two characters counts what is in front
of it: one line more than there are line feeds, and one column more than there are characters behind
the last of them (`Location.ofOffset_append`). With every character a location moves on, to a new
line or to the next column (`Location.precedes_behind`), so offsets further right have locations
further on.

The findings of a text start between two characters (`Diagnostic.fits_of_mem_ofText`). They are
listed in the order of where they start, so they are listed in the order of their locations, and two
of them share a location only if they start together (`Location.tellsPlacesApart`).
-/

set_option autoImplicit false
set_option relaxedAutoImplicit false

namespace PromptTemplate

/-! ### Where findings start -/

namespace Diagnostic

/-- What is found is found at some characters of the text. -/
theorem fits_of_mem_ofText {t : Text} {f : Diagnostic} (hf : f ∈ ofText t) : f.span.Fits t := by
  rcases mem_ofText_iff.mp hf with hf | hf | hf | hf
  · obtain ⟨p, hp, -, rfl⟩ := mem_openingTags_iff.mp hf
    exact Scan.fits_of_mem_items (ToggleTag.lawful .opening) t hp
  · obtain ⟨p, hp, -, rfl⟩ := mem_closingTags_iff.mp hf
    exact Scan.fits_of_mem_items (ToggleTag.lawful .closing) t hp
  · obtain ⟨p, hp, -, rfl⟩ := mem_unknownKinds_iff.mp hf
    exact Scan.fits_of_mem_items (Directive.lawful.filter _) t hp
  · obtain ⟨-, d, hd, hspan⟩ := exists_of_mem_redeclarationsAfter hf
    rw [hspan]
    exact Declaration.fits_of_mem_flats (mem_sortBy.mp hd)

end Diagnostic

namespace Location

/-! ### Moving on -/

/-- Whether a location stands before another one: on an earlier line, or in an earlier column of the
same line. -/
def Precedes (l l' : Location) : Prop :=
  l.line < l'.line ∨ l.line = l'.line ∧ l.column < l'.column

theorem Precedes.trans {l l' l'' : Location} (h : l.Precedes l') (h' : l'.Precedes l'') :
    l.Precedes l'' := by
  unfold Precedes at *
  omega

theorem Precedes.ne {l l' : Location} (h : l.Precedes l') : l ≠ l' := by
  rintro rfl
  unfold Precedes at h
  omega

/-- The location behind a character. -/
def next (l : Location) (c : Char) : Location :=
  if c = '\n' then ⟨l.line + 1, 1⟩ else ⟨l.line, l.column + 1⟩

/-- The location behind a text. -/
def behind (l : Location) (s : Text) : Location := s.foldl next l

/-- A character leads to a later location. -/
theorem precedes_next (l : Location) (c : Char) : l.Precedes (l.next c) := by
  unfold next
  split
  · exact Or.inl (Nat.lt_succ_self _)
  · exact Or.inr ⟨rfl, Nat.lt_succ_self _⟩

/-- Behind some characters a location has moved on. -/
theorem precedes_behind (l : Location) {s : Text} (hs : s ≠ []) : l.Precedes (l.behind s) := by
  induction s generalizing l with
  | nil => exact absurd rfl hs
  | cons c s ih =>
    cases s with
    | nil => exact precedes_next l c
    | cons d s => exact (precedes_next l c).trans (ih (l.next c) (List.cons_ne_nil d s))

/-- The location behind a text that begins at the first one counts its line feeds and the characters
behind the last of them. -/
theorem behind_eq (s : Text) :
    behind ⟨1, 1⟩ s = ⟨1 + s.count '\n', 1 + (s.rtakeWhile (· != '\n')).length⟩ := by
  induction s using List.reverseRec with
  | nil => rfl
  | append_singleton s c ih =>
    have hlast : behind ⟨1, 1⟩ (s ++ [c]) = (behind ⟨1, 1⟩ s).next c := by
      rw [behind, List.foldl_append]
      rfl
    rw [hlast, ih, next, List.count_append, List.count_singleton]
    split
    · rename_i hfeed
      have hstop : ¬ (c != '\n') = true := fun hne ↦ bne_iff_ne.mp hne hfeed
      rw [List.rtakeWhile_concat_neg (· != '\n') s c hstop, if_pos (beq_iff_eq.mpr hfeed)]
      rfl
    · rename_i hne
      have hmore : (c != '\n') = true := bne_iff_ne.mpr hne
      rw [List.rtakeWhile_concat_pos (· != '\n') s c hmore, if_neg (mt beq_iff_eq.mp hne),
        List.length_append]
      rfl

/-! ### Locations of offsets -/

/-- Going ahead by the width of a text leads behind it. -/
theorem advance_eq_behind (start : Location) (pre post : Text) :
    advance start pre.width (pre ++ post) = start.behind pre := by
  induction pre generalizing start with
  | nil => cases post <;> rfl
  | cons c pre ih =>
    have hc := Char.utf8Size_pos c
    rw [List.cons_append, advance, Text.width_cons, if_neg (by omega), Nat.add_sub_cancel_left]
    exact ih (start.next c)

/-- The location of an offset counts what is in front of it. -/
theorem ofOffset_append (pre post : Text) : ofOffset (pre ++ post) pre.width =
    ⟨1 + pre.count '\n', 1 + (pre.rtakeWhile (· != '\n')).length⟩ := by
  rw [ofOffset, advance_eq_behind, behind_eq]

/-- A later offset has a later location. -/
theorem precedes_of_lt {t : Text} {m n : Nat} (hm : Text.IsBoundary t m)
    (hn : Text.IsBoundary t n) (hlt : m < n) : (ofOffset t m).Precedes (ofOffset t n) := by
  obtain ⟨pre, post, rfl, rfl⟩ := hm
  obtain ⟨pre', post', ht, rfl⟩ := hn
  obtain ⟨between, rfl, rfl⟩ := Text.exists_append_of_width_le ht (Nat.le_of_lt hlt)
  have hbetween : between ≠ [] := by
    rintro rfl
    rw [List.append_nil] at hlt
    exact Nat.lt_irrefl _ hlt
  have hbehind : behind ⟨1, 1⟩ (pre ++ between) = (behind ⟨1, 1⟩ pre).behind between :=
    List.foldl_append
  rw [ofOffset, ofOffset, advance_eq_behind, ← List.append_assoc, advance_eq_behind, hbehind]
  exact precedes_behind _ hbetween

/-- Places with one location are one place. -/
theorem eq_of_ofOffset_eq {t : Text} {m n : Nat} (hm : Text.IsBoundary t m)
    (hn : Text.IsBoundary t n) (h : ofOffset t m = ofOffset t n) : m = n := by
  rcases Nat.lt_trichotomy m n with hlt | heq | hlt
  · exact absurd h (precedes_of_lt hm hn hlt).ne
  · exact heq
  · exact absurd h.symm (precedes_of_lt hn hm hlt).ne

/-- Whether the locations of a text tell its places apart. -/
structure TellsPlacesApart (t : Text) : Prop where
  /-- A location counts the line feeds in front of a place and the characters behind the last of
  them. -/
  counts : ∀ pre post, t = pre ++ post → ofOffset t pre.width =
    ⟨1 + pre.count '\n', 1 + (pre.rtakeWhile (· != '\n')).length⟩
  /-- Places further right have locations further on. -/
  increases : ∀ m n, Text.IsBoundary t m → Text.IsBoundary t n → m < n →
    (ofOffset t m).Precedes (ofOffset t n)
  /-- A location is that of one place only. -/
  injective : ∀ m n, Text.IsBoundary t m → Text.IsBoundary t n →
    ofOffset t m = ofOffset t n → m = n
  /-- Findings are listed in the order of their locations, and those that do not start together have
  different ones. -/
  findings : ∀ file, (LocatedDiagnostic.ofTemplate file t).Pairwise fun d d' ↦
    d.diagnostic.span.start = d'.diagnostic.span.start ∧ d.location = d'.location ∨
      d.diagnostic.span.start < d'.diagnostic.span.start ∧ d.location.Precedes d'.location

/-- The locations of every text tell its places apart. -/
theorem tellsPlacesApart (t : Text) : TellsPlacesApart t where
  counts pre post ht := by rw [ht, ofOffset_append]
  increases _ _ := precedes_of_lt
  injective _ _ := eq_of_ofOffset_eq
  findings file := by
    have hordered := pairwise_sortBy_le (fun f : Diagnostic ↦ f.span.start)
      (Diagnostic.openingTags t ++ Diagnostic.closingTags t ++ Diagnostic.unknownKinds t ++
        Diagnostic.redeclarations t)
    refine List.pairwise_map.mpr (List.Pairwise.imp_of_mem (fun {d d'} hd hd' hle ↦ ?_) hordered)
    rcases Nat.eq_or_lt_of_le hle with heq | hlt
    · exact Or.inl ⟨heq, congrArg (ofOffset t) heq⟩
    · exact Or.inr ⟨hlt, precedes_of_lt (Diagnostic.fits_of_mem_ofText hd).start_isBoundary
        (Diagnostic.fits_of_mem_ofText hd').start_isBoundary hlt⟩

/-- The end of a text that ends a line is the first column of the next one. -/
example : ofOffset ['é', '\n', 'ü', '\n'] 6 = ⟨3, 1⟩ := by decide

end Location

end PromptTemplate
