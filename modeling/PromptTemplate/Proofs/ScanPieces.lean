import PromptTemplate.Directive
import PromptTemplate.Proofs.ScanRun

/-!
Scanning a text piece by piece. A scan `Reads` a piece when it takes the same items from it
whatever stands behind it. Pieces that are read can be put together (`Reads.append`,
`Reads.flatMap`), so the items of a text follow from those of its pieces (`Reads.items_eq`). A scan
takes nothing from a piece that it `Passes`: what it looks for starts at no character of it.

What is looked for in a template begins with the opening mark. So every scan passes text without
braces (`passes_of_plain`), and a tag without inner braces is passed if it is not read at its head
(`passes_of_tag`).
-/

set_option autoImplicit false
set_option relaxedAutoImplicit false

namespace PromptTemplate.Scan

/-! ### Things at their places -/

section Placing

variable {β : Type} (text : β → Text)

/-- Things that are written one behind the other from an offset on, each at its place. -/
def placedFrom : Nat → List β → List (Placed β)
  | _, [] => []
  | offset, b :: rest =>
    ⟨b, ⟨offset, offset + (text b).width⟩⟩ :: placedFrom (offset + (text b).width) rest

variable {text}

/-- A thing is placed behind what precedes it and before what follows it, and takes up the bytes
that spell it. -/
theorem of_mem_placedFrom {offset : Nat} {bs : List β} {p : Placed β}
    (hp : p ∈ placedFrom text offset bs) : offset ≤ p.span.start ∧
      p.span.stop ≤ offset + Text.width (bs.flatMap text) ∧
        p.span = ⟨p.span.start, p.span.start + (text p.item).width⟩ := by
  induction bs generalizing offset with
  | nil => cases hp
  | cons b bs ih =>
    rw [List.flatMap_cons, Text.width_append]
    rcases List.mem_cons.mp hp with rfl | hp
    · exact ⟨Nat.le_refl _, by dsimp only; omega, rfl⟩
    · obtain ⟨hstart, hstop, hspan⟩ := ih hp
      exact ⟨by omega, by omega, hspan⟩

theorem pairwise_placedFrom (offset : Nat) (bs : List β) :
    (placedFrom text offset bs).Pairwise fun p q ↦ p.span.stop ≤ q.span.start := by
  induction bs generalizing offset with
  | nil => exact List.Pairwise.nil
  | cons b bs ih =>
    exact List.pairwise_cons.mpr ⟨fun q hq ↦ (of_mem_placedFrom hq).1, ih _⟩

/-- Things that are written further right are placed further right. -/
theorem placedFrom_add (offset shift : Nat) (bs : List β) :
    placedFrom text (offset + shift) bs =
      (placedFrom text offset bs).map fun p ↦ { p with span := p.span.shift shift } := by
  induction bs generalizing offset with
  | nil => rfl
  | cons b bs ih =>
    have hnext : offset + shift + (text b).width = offset + (text b).width + shift := by omega
    unfold placedFrom
    rw [List.map_cons, hnext, ih]
    rfl

end Placing

variable {α β : Type} {read? : Text → Option α} {source : α → Text}

/-! ### Pieces that are read -/

/-- Whether a scan takes certain items from a piece, counted from where the piece begins, and goes
on behind it. -/
def Reads (read? : Text → Option α) (source : α → Text) (piece : Text)
    (found : Nat → List (Placed α)) : Prop :=
  ∀ (offset : Nat) (t : Text) (rest : List (Placed α)),
    Run read? source (offset + piece.width) t rest →
      Run read? source offset (piece ++ t) (found offset ++ rest)

/-- What is read of two pieces is what is read of each. -/
theorem Reads.append {piece piece' : Text} {found found' : Nat → List (Placed α)}
    (h : Reads read? source piece found) (h' : Reads read? source piece' found') :
    Reads read? source (piece ++ piece') fun n ↦ found n ++ found' (n + piece.width) := by
  intro offset t rest run
  rw [Text.width_append, ← Nat.add_assoc] at run
  rw [List.append_assoc, List.append_assoc]
  exact h _ _ _ (h' _ _ _ run)

/-- A text is read if all its pieces are. -/
theorem Reads.flatMap {text : β → Text} {found : β → Nat → List (Placed α)} (bs : List β)
    (h : ∀ b ∈ bs, Reads read? source (text b) (found b)) :
    Reads read? source (bs.flatMap text) fun n ↦
      (placedFrom text n bs).flatMap fun p ↦ found p.item p.span.start := by
  induction bs with
  | nil => exact fun _ _ _ run ↦ run
  | cons b bs ih =>
    exact (h b List.mem_cons_self).append (ih fun b' hb' ↦ h b' (List.mem_cons_of_mem _ hb'))

/-- A scan of a piece on its own takes what is read of the piece. -/
theorem Reads.items_eq (law : Lawful read? source) {t : Text} {found : Nat → List (Placed α)}
    (h : Reads read? source t found) : items read? source t = found 0 := by
  have run := h 0 [] [] (Run.done _)
  rw [List.append_nil, List.append_nil] at run
  exact (run.eq_itemsFrom law).symm

/-- Of the source of an item the item is read. -/
theorem reads_item {item : α} (h : ∀ t, read? (source item ++ t) = some item) :
    Reads read? source (source item) fun n ↦ [⟨item, ⟨n, n + (source item).width⟩⟩] :=
  fun _ t _ run ↦ Run.take (h t) run

/-! ### Pieces that are passed -/

/-- Whether nothing is read at any character of a piece, whatever stands behind it. -/
def Passes (read? : Text → Option α) (piece : Text) : Prop :=
  ∀ s, s ≠ [] → s <:+ piece → ∀ t, read? (s ++ t) = none

theorem Passes.reads {piece : Text} (h : Passes read? piece) :
    Reads read? source piece fun _ ↦ [] := by
  induction piece with
  | nil => exact fun _ _ _ run ↦ run
  | cons c piece ih =>
    intro offset t rest run
    rw [Text.width_cons, ← Nat.add_assoc] at run
    refine Run.pass (h (c :: piece) (List.cons_ne_nil _ _) (List.suffix_refl _) t) (ih ?_ _ _ _ run)
    exact fun s hs hsuffix ↦ h s hs (hsuffix.trans (List.suffix_cons c piece))

/-- Pieces that a scan goes past can be put together. -/
theorem Passes.append {piece piece' : Text} (h : Passes read? piece)
    (h' : Passes read? piece') : Passes read? (piece ++ piece') := by
  induction piece with
  | nil => exact h'
  | cons c piece ih =>
    intro s hs hsuffix t
    rcases List.suffix_cons_iff.mp hsuffix with rfl | hsuffix
    · have hnone := h (c :: piece) (List.cons_ne_nil _ _) (List.suffix_refl _) (piece' ++ t)
      rwa [← List.append_assoc] at hnone
    · refine ih (fun s hs hsuffix ↦ h s hs ?_) s hs hsuffix t
      exact hsuffix.trans (List.suffix_cons c piece)

theorem Passes.flatMap {text : β → Text} (bs : List β) (h : ∀ b ∈ bs, Passes read? (text b)) :
    Passes read? (bs.flatMap text) := by
  induction bs with
  | nil => exact fun s hs hsuffix ↦ absurd (List.suffix_nil.mp hsuffix) hs
  | cons b bs ih =>
    exact (h b List.mem_cons_self).append (ih fun b' hb' ↦ h b' (List.mem_cons_of_mem _ hb'))

/-- Whether all that is read begins with the opening mark. -/
def Opens (read? : Text → Option α) : Prop :=
  ∀ {t : Text} {item : α}, read? t = some item → openMark <+: t

theorem Lawful.opens (law : Lawful read? source) (h : ∀ item, openMark <+: source item) :
    Opens read? :=
  fun hread ↦ (h _).trans (law.source_isPrefix hread)

theorem Opens.eq_none (law : Opens read?) {t : Text} (h : ¬ openMark <+: t) : read? t = none := by
  cases hread : read? t with
  | none => rfl
  | some item => exact absurd (law hread) h

theorem passes_of_plain (law : Opens read?) {piece : Text} (hplain : '{' ∉ piece) :
    Passes read? piece := by
  intro s hs hsuffix t
  obtain ⟨c, s, rfl⟩ := List.exists_cons_of_ne_nil hs
  refine law.eq_none fun hopen ↦ hplain (hsuffix.subset ?_)
  rw [(List.cons_prefix_cons.mp hopen).1]
  exact List.mem_cons_self

/-- Behind its first character a tag has no place where two braces open. -/
theorem passes_of_tag (law : Opens read?) {inner : Text} (hinner : inner ≠ [])
    (hplain : '{' ∉ inner) (hhead : ∀ t, read? (openMark ++ inner ++ t) = none) :
    Passes read? (openMark ++ inner) := by
  intro s hs hsuffix t
  rcases List.suffix_cons_iff.mp hsuffix with rfl | hsuffix
  · exact hhead t
  · rcases List.suffix_cons_iff.mp hsuffix with rfl | hsuffix
    · obtain ⟨c, inner, rfl⟩ := List.exists_cons_of_ne_nil hinner
      refine law.eq_none fun hopen ↦ hplain ?_
      rw [(List.cons_prefix_cons.mp (List.cons_prefix_cons.mp hopen).2).1]
      exact List.mem_cons_self
    · exact passes_of_plain law hplain s hs hsuffix t

/-- Reads one text and nothing else. -/
def exactly? (pattern t : Text) : Option Unit := if pattern.isPrefixOf t then some () else none

theorem isPrefix_of_exactly? {pattern t : Text} {u : Unit} (h : exactly? pattern t = some u) :
    pattern <+: t := by
  rw [exactly?] at h
  split at h
  · rename_i hhead
    exact List.isPrefixOf_iff_prefix.mp hhead
  · cases h

/-- A text that begins in no part of a piece stands behind it at the earliest. -/
theorem length_le_of_passes {pattern piece t v : Text} (h : Passes (exactly? pattern) piece)
    (hv : v ++ pattern <+: piece ++ t) : piece.length ≤ v.length := by
  rcases Nat.lt_or_ge v.length piece.length with hlt | hle
  · obtain ⟨s, rfl⟩ := List.prefix_of_prefix_length_le ((List.prefix_append v pattern).trans hv)
      (List.prefix_append piece t) (Nat.le_of_lt hlt)
    have hs : s ≠ [] := by
      rintro rfl
      rw [List.append_nil] at hlt
      exact Nat.lt_irrefl _ hlt
    rw [List.append_assoc] at hv
    have hhead := List.isPrefixOf_iff_prefix.mpr ((List.prefix_append_right_inj v).mp hv)
    have hnone := h s hs (List.suffix_append v s) t
    rw [exactly?, if_pos hhead] at hnone
    cases hnone
  · exact hle

end PromptTemplate.Scan
