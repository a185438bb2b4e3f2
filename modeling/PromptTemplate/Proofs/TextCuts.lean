import Mathlib.Data.List.Pairwise
import PromptTemplate.Span

/-!
Byte offsets name cuts of a text. Two cuts of one text at the same offset are the same cut, so a
span that slices a text determines what precedes the slice, the slice and what follows it
(`Span.slice?_eq_some_iff`). Everything that is said about spans elsewhere is said through such
a division of the text into three.
-/

set_option autoImplicit false
set_option relaxedAutoImplicit false

namespace PromptTemplate

namespace Text

theorem width_pos {t : Text} (h : t ≠ []) : 0 < width t := by
  cases t with
  | nil => exact absurd rfl h
  | cons c t =>
    have hc := Char.utf8Size_pos c
    rw [width_cons]
    omega

/-- A text is cut in two at an offset exactly if the first part has that width. -/
theorem splitAt?_eq_some_iff {n : Nat} {t a b : Text} :
    splitAt? n t = some (a, b) ↔ t = a ++ b ∧ width a = n := by
  constructor
  · exact splitAt?_eq_some
  · rintro ⟨rfl, rfl⟩
    exact splitAt?_append a b

/-- Of two cuts of a text, the one at the smaller offset leaves more behind it. -/
theorem exists_append_of_width_le {a b c d : Text} (h : a ++ b = c ++ d)
    (hw : width a ≤ width c) : ∃ m, c = a ++ m ∧ b = m ++ d := by
  rcases List.append_eq_append_iff.mp h with ⟨m, hc, hb⟩ | ⟨m, ha, hd⟩
  · exact ⟨m, hc, hb⟩
  · have hm : m = [] := by
      by_cases hne : m = []
      · exact hne
      · have hpos := width_pos hne
        rw [ha, width_append] at hw
        omega
    subst hm
    exact ⟨[], by simpa using ha.symm, by simpa using hd.symm⟩

/-- A slice is what stands between a text of the width of the start and some other text. -/
theorem slice?_eq_some_iff {t m : Text} {start stop : Nat} :
    slice? t start stop = some m ↔
      ∃ pre post, t = pre ++ m ++ post ∧ width pre = start ∧ start + width m = stop := by
  constructor
  · intro h
    unfold slice? at h
    split at h
    · rename_i hle
      obtain ⟨⟨pre, rest⟩, hpre, hrest⟩ := Option.bind_eq_some_iff.mp h
      obtain ⟨⟨middle, post⟩, hmiddle, rfl⟩ := Option.map_eq_some_iff.mp hrest
      obtain ⟨rfl, rfl⟩ := splitAt?_eq_some hpre
      obtain ⟨rfl, hw⟩ := splitAt?_eq_some hmiddle
      exact ⟨pre, post, by rw [List.append_assoc], rfl, by dsimp only at hw ⊢; omega⟩
    · simp at h
  · rintro ⟨pre, post, rfl, rfl, rfl⟩
    rw [slice?, if_pos (Nat.le_add_right _ _), List.append_assoc, splitAt?_append,
      Option.bind_some, Nat.add_sub_cancel_left, splitAt?_append, Option.map_some]

/-- A part of a text gives way to its replacement. -/
theorem replaceSlice?_append (pre m post replacement : Text) :
    replaceSlice? (pre ++ m ++ post) (width pre) (width pre + width m) replacement =
      some (pre ++ replacement ++ post) := by
  rw [replaceSlice?, if_pos (Nat.le_add_right _ _), List.append_assoc, splitAt?_append,
    Option.bind_some, Nat.add_sub_cancel_left, splitAt?_append, Option.map_some]

theorem isPrefixOf?_eq_some_iff {pattern t rest : Text} :
    pattern.isPrefixOf? t = some rest ↔ t = pattern ++ rest := by
  induction pattern generalizing t with
  | nil => simp [List.isPrefixOf?]
  | cons c pattern ih =>
    cases t with
    | nil => simp [List.isPrefixOf?]
    | cons d t =>
      by_cases hcd : c = d
      · simp [List.isPrefixOf?, hcd, ih]
      · simp [List.isPrefixOf?, hcd, Ne.symm hcd]

/-- The run of characters up to the first one that ends it, and what begins there. -/
theorem takeWhile_dropWhile_append {p : Char → Bool} {run : Text} {c : Char}
    (hrun : ∀ d ∈ run, p d = true) (hc : p c = false) (rest : Text) :
    (run ++ c :: rest).takeWhile p = run ∧ (run ++ c :: rest).dropWhile p = c :: rest := by
  have hneg : ¬ p c = true := by simp [hc]
  rw [List.takeWhile_append_of_pos hrun, List.dropWhile_append_of_pos hrun,
    List.takeWhile_cons_of_neg hneg, List.dropWhile_cons_of_neg hneg, List.append_nil]
  exact ⟨rfl, rfl⟩

theorem eq_true_of_mem_takeWhile {p : Char → Bool} {t : Text} {c : Char}
    (hc : c ∈ t.takeWhile p) : p c = true :=
  List.all_eq_true.mp List.all_takeWhile c hc

/-- Whether a byte offset lies between two characters of a text, or at one of its ends. -/
def IsBoundary (t : Text) (n : Nat) : Prop := ∃ pre post, t = pre ++ post ∧ width pre = n

end Text

namespace Span

/-- A slice is a run of characters, and its span says how many bytes precede it. -/
theorem slice?_eq_some_iff {s : Span} {t m : Text} :
    s.slice? t = some m ↔ ∃ pre post, t = pre ++ m ++ post ∧
      s = ⟨Text.width pre, Text.width pre + Text.width m⟩ := by
  rw [slice?, Text.slice?_eq_some_iff]
  constructor
  · rintro ⟨pre, post, ht, hstart, hstop⟩
    refine ⟨pre, post, ht, ?_⟩
    cases s
    simp_all
  · rintro ⟨pre, post, ht, rfl⟩
    exact ⟨pre, post, ht, rfl, rfl⟩

/-- A slice of a slice is a slice of the whole text, further right and within the first one. -/
theorem slice?_shift {outer s : Span} {t body m : Text} (hbody : outer.slice? t = some body)
    (hm : s.slice? body = some m) :
    (s.shift outer.start).slice? t = some m ∧ outer.start ≤ (s.shift outer.start).start ∧
      (s.shift outer.start).stop ≤ outer.stop := by
  obtain ⟨before, behind, rfl, rfl⟩ := slice?_eq_some_iff.mp hbody
  obtain ⟨pre, post, rfl, rfl⟩ := slice?_eq_some_iff.mp hm
  refine ⟨slice?_eq_some_iff.mpr ⟨before ++ pre, post ++ behind, ?_, ?_⟩, ?_, ?_⟩
  · simp only [List.append_assoc]
  · simp only [shift, Text.width_append, Nat.add_comm, Nat.add_left_comm]
  · exact Nat.le_add_left _ _
  · simp only [shift, Text.width_append]
    omega

/-- Slices of a text that meet are one slice. There is one cut at the offset where they meet. -/
theorem slice?_append {t m n : Text} {start middle stop : Nat}
    (hm : (⟨start, middle⟩ : Span).slice? t = some m)
    (hn : (⟨middle, stop⟩ : Span).slice? t = some n) :
    (⟨start, stop⟩ : Span).slice? t = some (m ++ n) := by
  obtain ⟨pre, post, ht, hspan⟩ := slice?_eq_some_iff.mp hm
  obtain ⟨pre', post', ht', hspan'⟩ := slice?_eq_some_iff.mp hn
  obtain ⟨rfl, rfl⟩ := Span.mk.inj hspan
  obtain ⟨hmiddle, rfl⟩ := Span.mk.inj hspan'
  have hcut := Text.splitAt?_eq_some_iff.mpr ⟨ht, Text.width_append pre m⟩
  have hcut' := Text.splitAt?_eq_some_iff.mpr
    ⟨ht'.trans (List.append_assoc pre' n post'), hmiddle.symm⟩
  obtain ⟨rfl, rfl⟩ := Prod.mk.inj (Option.some.inj (hcut'.symm.trans hcut))
  refine slice?_eq_some_iff.mpr ⟨pre, post', ?_, ?_⟩
  · rw [ht']
    simp only [List.append_assoc]
  · rw [Text.width_append, Text.width_append, Nat.add_assoc]

/-- A span that covers some characters of a text and no part of a character. -/
structure Fits (s : Span) (t : Text) : Prop where
  start_lt_stop : s.start < s.stop
  stop_le_width : s.stop ≤ Text.width t
  start_isBoundary : Text.IsBoundary t s.start
  stop_isBoundary : Text.IsBoundary t s.stop

/-- The ends of a slice are as far apart as the slice is wide. -/
theorem stop_eq_of_slice?_eq_some {s : Span} {t m : Text} (h : s.slice? t = some m) :
    s.stop = s.start + m.width := by
  obtain ⟨pre, post, -, rfl⟩ := slice?_eq_some_iff.mp h
  rfl

/-- A slice stops where the text ends at the latest. -/
theorem stop_le_width_of_slice?_eq_some {s : Span} {t m : Text} (h : s.slice? t = some m) :
    s.stop ≤ t.width := by
  obtain ⟨pre, post, rfl, rfl⟩ := slice?_eq_some_iff.mp h
  simp only [Text.width_append]
  omega

/-- A span that covers some of a text fits it. -/
theorem fits_of_slice?_eq_some {s : Span} {t m : Text} (h : s.slice? t = some m) (hm : m ≠ []) :
    s.Fits t := by
  obtain ⟨pre, post, rfl, rfl⟩ := slice?_eq_some_iff.mp h
  have hpos := Text.width_pos hm
  refine ⟨by dsimp only; omega, by simp only [Text.width_append]; omega, ?_, ?_⟩
  · exact ⟨pre, m ++ post, List.append_assoc _ _ _, rfl⟩
  · exact ⟨pre ++ m, post, rfl, Text.width_append _ _⟩

/-- A span that fits a text slices some characters of it. -/
theorem Fits.exists_slice? {s : Span} {t : Text} (h : s.Fits t) :
    ∃ m, m ≠ [] ∧ s.slice? t = some m := by
  obtain ⟨pre, rest, ht, hstart⟩ := h.start_isBoundary
  obtain ⟨upto, post, ht', hstop⟩ := h.stop_isBoundary
  have hlt := h.start_lt_stop
  obtain ⟨m, rfl, -⟩ := Text.exists_append_of_width_le (ht.symm.trans ht') (by omega)
  rw [Text.width_append] at hstop
  refine ⟨m, ?_, slice?_eq_some_iff.mpr ⟨pre, post, ht', ?_⟩⟩
  · rintro rfl
    rw [Text.width_nil] at hstop
    omega
  · cases s
    simp_all

/-- What lies within a slice of a text and is a slice of the text is a slice of the slice. -/
theorem slice?_of_shift {outer s : Span} {t body m : Text} (hbody : outer.slice? t = some body)
    (hm : (s.shift outer.start).slice? t = some m)
    (hstop : (s.shift outer.start).stop ≤ outer.stop) :
    s.slice? body = some m := by
  obtain ⟨start, stop⟩ := s
  obtain ⟨before, behind, ht, rfl⟩ := slice?_eq_some_iff.mp hbody
  obtain ⟨pre, post, ht', hspan⟩ := slice?_eq_some_iff.mp hm
  obtain ⟨hstart, hstop'⟩ := Span.mk.inj hspan
  dsimp only [shift] at hstart hstop hstop'
  rw [List.append_assoc] at ht ht'
  obtain ⟨p, rfl, hrest⟩ := Text.exists_append_of_width_le (ht.symm.trans ht') (by omega)
  rw [Text.width_append] at hstart hstop'
  obtain ⟨q, hq, -⟩ := Text.exists_append_of_width_le
    (show (p ++ m) ++ post = body ++ behind by rw [hrest, List.append_assoc])
    (by rw [Text.width_append]; omega)
  refine slice?_eq_some_iff.mpr ⟨p, q, hq, ?_⟩
  simp only [mk.injEq]
  omega

/-- What fits a text and lies within a slice of it fits the slice. -/
theorem fits_of_shift_fits {outer s : Span} {t body : Text} (hbody : outer.slice? t = some body)
    (hs : (s.shift outer.start).Fits t) (hstop : (s.shift outer.start).stop ≤ outer.stop) :
    s.Fits body := by
  obtain ⟨m, hm, hslice⟩ := hs.exists_slice?
  exact fits_of_slice?_eq_some (slice?_of_shift hbody hslice hstop) hm

/-- The span counted from an origin, unless one of its ends lies left of the origin. -/
def relativeTo? (s : Span) (origin : Nat) : Option Span :=
  if origin ≤ s.start ∧ origin ≤ s.stop then some ⟨s.start - origin, s.stop - origin⟩ else none

/-- A span counted from an origin is the one that the origin moves back to it. -/
theorem relativeTo?_eq_some_iff {s r : Span} {origin : Nat} :
    s.relativeTo? origin = some r ↔ r.shift origin = s := by
  obtain ⟨start, stop⟩ := s
  obtain ⟨start', stop'⟩ := r
  simp only [relativeTo?, shift, Option.ite_none_right_eq_some, Option.some.injEq, mk.injEq]
  omega

/-- A span right of an origin is one that was moved there. -/
theorem exists_shift_eq {s : Span} {origin : Nat} (hstart : origin ≤ s.start)
    (hstop : origin ≤ s.stop) : ∃ r : Span, r.shift origin = s :=
  ⟨_, relativeTo?_eq_some_iff.mp (if_pos ⟨hstart, hstop⟩)⟩

/-- Whether a span starts before another one and stops with it. -/
def RunsInto (s other : Span) : Prop := s.start < other.start ∧ s.stop = other.stop

/-- Whether one of two spans stops before the other one starts. -/
def Apart (s other : Span) : Prop := s.stop ≤ other.start ∨ other.stop ≤ s.start

theorem Apart.symm {s other : Span} (h : s.Apart other) : other.Apart s := Or.symm h

/-- Spans that are apart and not empty do not start together. -/
theorem Apart.start_ne {s other : Span} (h : s.Apart other) (hs : s.start < s.stop)
    (hother : other.start < other.stop) : s.start ≠ other.start := by
  unfold Apart at h
  omega

/-- Spans are apart exactly if they do not overlap. -/
theorem apart_iff_overlaps_eq_false {s other : Span} :
    s.Apart other ↔ s.overlaps other = false := by
  simp only [Apart, overlaps, Bool.and_eq_false_iff, decide_eq_false_iff_not, Nat.not_lt]
  exact Or.comm

theorem shift_injective {s other : Span} {offset : Nat} (h : s.shift offset = other.shift offset) :
    s = other := by
  obtain ⟨start, stop⟩ := s
  obtain ⟨start', stop'⟩ := other
  simp only [shift, mk.injEq] at h ⊢
  omega

/-- Spans that are apart when both are moved were apart before. -/
theorem Apart.of_shift {s other : Span} {offset : Nat}
    (h : (s.shift offset).Apart (other.shift offset)) : s.Apart other :=
  h.imp Nat.le_of_add_le_add_right Nat.le_of_add_le_add_right

/-- Of things whose spans come one after the other, any two are the same or are apart. -/
theorem eq_or_apart_of_pairwise {α : Type} {span : α → Span} {xs : List α}
    (hxs : xs.Pairwise fun a b ↦ (span a).stop ≤ (span b).start) {a b : α} (ha : a ∈ xs)
    (hb : b ∈ xs) : a = b ∨ (span a).Apart (span b) := by
  have hpairwise : xs.Pairwise fun a b ↦ (span a).Apart (span b) := hxs.imp Or.inl
  have symm : Std.Symm fun a b : α ↦ (span a).Apart (span b) := ⟨fun _ _ ↦ Apart.symm⟩
  by_cases hab : a = b
  · exact Or.inl hab
  · exact Or.inr (hpairwise.forall ha hb hab)

end Span

end PromptTemplate
