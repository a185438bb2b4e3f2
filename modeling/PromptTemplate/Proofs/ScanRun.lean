import PromptTemplate.Scan
import PromptTemplate.Proofs.TextCuts

/-!
The run of a scan. At each place of a text a scan either passes a character, where its reader
finds nothing, or takes an item, and then goes on behind the characters that spell the item
(`Run`). For a reader that reads nothing but what stands at the head of a text (`Lawful`) the
items that `Scan.itemsFrom` lists are those of the only run (`run_itemsFrom`, `Run.eq_itemsFrom`).

What is true of all items of a scan follows by induction on its run: an item stands in the text
where its span says (`Run.exists_append_of_mem`, `slice?_of_mem_items`), and each item stops
before the next one starts (`Run.pairwise_stop_le_start`).
-/

set_option autoImplicit false
set_option relaxedAutoImplicit false

namespace PromptTemplate.Scan

variable {α : Type} {read? : Text → Option α} {source : α → Text}

/-- A reader whose items are spelled at the head of what is read, by one character at least. -/
structure Lawful (read? : Text → Option α) (source : α → Text) : Prop where
  source_isPrefix : ∀ {t : Text} {item : α}, read? t = some item → source item <+: t
  source_ne_nil : ∀ {t : Text} {item : α}, read? t = some item → source item ≠ []

/-- A reader that accepts fewer items is as lawful as before. -/
theorem Lawful.filter (law : Lawful read? source) (accept : α → Bool) :
    Lawful (fun t ↦ (read? t).filter accept) source where
  source_isPrefix h := law.source_isPrefix (Option.filter_eq_some_iff.mp h).1
  source_ne_nil h := law.source_ne_nil (Option.filter_eq_some_iff.mp h).1

/-- The steps of a scan through a text that begins at an offset, and the items it takes. -/
inductive Run (read? : Text → Option α) (source : α → Text) :
    Nat → Text → List (Placed α) → Prop
  | done (offset : Nat) : Run read? source offset [] []
  | pass {offset : Nat} {c : Char} {t : Text} {found : List (Placed α)}
      (hread : read? (c :: t) = none) (hrest : Run read? source (offset + c.utf8Size) t found) :
      Run read? source offset (c :: t) found
  | take {offset : Nat} {item : α} {t : Text} {found : List (Placed α)}
      (hread : read? (source item ++ t) = some item)
      (hrest : Run read? source (offset + (source item).width) t found) :
      Run read? source offset (source item ++ t)
        (⟨item, ⟨offset, offset + (source item).width⟩⟩ :: found)

/-! ### The only run of a scan -/

theorem itemsFrom_nil (offset skip : Nat) : itemsFrom read? source offset skip [] = [] := by
  rw [itemsFrom]

/-- Characters that are to be skipped are passed without being read. -/
theorem itemsFrom_skip (s t : Text) (offset : Nat) :
    itemsFrom read? source offset s.length (s ++ t) =
      itemsFrom read? source (offset + s.width) 0 t := by
  induction s generalizing offset with
  | nil => rfl
  | cons c s ih =>
    rw [List.length_cons, List.cons_append, itemsFrom, ih, Text.width_cons, Nat.add_assoc]

/-- Where nothing is read, a scan goes on behind the next character. -/
theorem itemsFrom_pass {c : Char} {t : Text} (hread : read? (c :: t) = none) (offset : Nat) :
    itemsFrom read? source offset 0 (c :: t) =
      itemsFrom read? source (offset + c.utf8Size) 0 t := by
  rw [itemsFrom, hread]

/-- Where an item is read, a scan takes it and goes on behind its source. -/
theorem itemsFrom_take {item : α} {t : Text} (hitem : source item ≠ [])
    (hread : read? (source item ++ t) = some item) (offset : Nat) :
    itemsFrom read? source offset 0 (source item ++ t) =
      ⟨item, ⟨offset, offset + (source item).width⟩⟩ ::
        itemsFrom read? source (offset + (source item).width) 0 t := by
  obtain ⟨c, s, hs⟩ := List.exists_cons_of_ne_nil hitem
  have hskip : itemsFrom read? source (offset + c.utf8Size) s.length (s ++ t) =
      itemsFrom read? source (offset + c.utf8Size + Text.width s) 0 t := itemsFrom_skip s t _
  rw [hs, List.cons_append] at hread ⊢
  rw [itemsFrom, hread]
  simp only [hs, List.length_cons, Nat.add_sub_cancel, hskip, Text.width_cons, Nat.add_assoc]

/-- A lawful scan has a run, and it takes the items that are listed. The scan goes on behind a whole
item, so the induction is on the length of what is left. -/
theorem run_itemsFrom (law : Lawful read? source) (offset : Nat) (t : Text) :
    Run read? source offset t (itemsFrom read? source offset 0 t) := by
  induction hn : t.length using Nat.strongRecOn generalizing offset t with
  | ind n ih =>
    cases t with
    | nil =>
      rw [itemsFrom_nil]
      exact Run.done offset
    | cons c t =>
      cases hread : read? (c :: t) with
      | none =>
        rw [itemsFrom_pass hread]
        exact Run.pass hread (ih t.length (by simp [← hn]) _ t rfl)
      | some item =>
        obtain ⟨rest, hrest⟩ := law.source_isPrefix hread
        have hitem := law.source_ne_nil hread
        have hlength : rest.length < n := by
          have hpos := List.length_pos_iff.mpr hitem
          have hlen := congrArg List.length hrest
          rw [List.length_append, hn] at hlen
          omega
        rw [← hrest] at hread ⊢
        rw [itemsFrom_take hitem hread]
        exact Run.take hread (ih rest.length hlength _ rest rfl)

/-- A lawful scan has one run only. -/
theorem Run.eq_itemsFrom (law : Lawful read? source) {offset : Nat} {t : Text}
    {found : List (Placed α)} (run : Run read? source offset t found) :
    found = itemsFrom read? source offset 0 t := by
  induction run with
  | done offset => rw [itemsFrom_nil]
  | pass hread _ ih => rw [itemsFrom_pass hread, ← ih]
  | take hread _ ih => rw [itemsFrom_take (law.source_ne_nil hread) hread, ← ih]

/-! ### Where the items stand -/

/-- An item stands behind some characters of the text, and was read there. -/
theorem Run.exists_append_of_mem {offset : Nat} {t : Text} {found : List (Placed α)}
    (run : Run read? source offset t found) {p : Placed α} (hp : p ∈ found) :
    ∃ pre post, t = pre ++ source p.item ++ post ∧
      p.span = ⟨offset + pre.width, offset + pre.width + (source p.item).width⟩ ∧
        read? (source p.item ++ post) = some p.item := by
  induction run with
  | done offset => cases hp
  | @pass offset c t found hread _ ih =>
    obtain ⟨pre, post, rfl, hspan, hitem⟩ := ih hp
    refine ⟨c :: pre, post, rfl, ?_, hitem⟩
    rw [hspan, Text.width_cons, Nat.add_assoc offset]
  | @take offset item t found hread _ ih =>
    rcases List.mem_cons.mp hp with rfl | hp
    · exact ⟨[], t, rfl, rfl, hread⟩
    · obtain ⟨pre, post, rfl, hspan, hitem⟩ := ih hp
      refine ⟨source item ++ pre, post, by simp only [List.append_assoc], ?_, hitem⟩
      rw [hspan, Text.width_append, Nat.add_assoc offset]

theorem Run.le_start {offset : Nat} {t : Text} {found : List (Placed α)}
    (run : Run read? source offset t found) {p : Placed α} (hp : p ∈ found) :
    offset ≤ p.span.start := by
  obtain ⟨pre, post, -, hspan, -⟩ := run.exists_append_of_mem hp
  rw [hspan]
  exact Nat.le_add_right _ _

/-- Each item stops before those after it start. -/
theorem Run.pairwise_stop_le_start {offset : Nat} {t : Text} {found : List (Placed α)}
    (run : Run read? source offset t found) :
    found.Pairwise fun p q ↦ p.span.stop ≤ q.span.start := by
  induction run with
  | done offset => exact List.Pairwise.nil
  | pass _ _ ih => exact ih
  | take _ hrest ih => exact List.pairwise_cons.mpr ⟨fun q hq ↦ hrest.le_start hq, ih⟩

section Items

variable (law : Lawful read? source) (t : Text)
include law

theorem run_items : Run read? source 0 t (items read? source t) := run_itemsFrom law 0 t

/-- The span of an item slices the characters that spell it. -/
theorem slice?_of_mem_items {p : Placed α} (hp : p ∈ items read? source t) :
    p.span.slice? t = some (source p.item) := by
  obtain ⟨pre, post, ht, hspan, -⟩ := (run_items law t).exists_append_of_mem hp
  exact Span.slice?_eq_some_iff.mpr ⟨pre, post, ht, by rw [hspan, Nat.zero_add]⟩

theorem source_ne_nil_of_mem_items {p : Placed α} (hp : p ∈ items read? source t) :
    source p.item ≠ [] := by
  obtain ⟨pre, post, -, -, hread⟩ := (run_items law t).exists_append_of_mem hp
  exact law.source_ne_nil hread

theorem fits_of_mem_items {p : Placed α} (hp : p ∈ items read? source t) : p.span.Fits t :=
  Span.fits_of_slice?_eq_some (slice?_of_mem_items law t hp)
    (source_ne_nil_of_mem_items law t hp)

/-- An item ends before the next one begins. -/
theorem pairwise_items :
    (items read? source t).Pairwise fun p q ↦ p.span.stop ≤ q.span.start :=
  (run_items law t).pairwise_stop_le_start

theorem pairwise_start_items :
    (items read? source t).Pairwise fun p q ↦ p.span.start < q.span.start :=
  (pairwise_items law t).imp_of_mem fun hp _ hstop ↦
    Nat.lt_of_lt_of_le (fits_of_mem_items law t hp).start_lt_stop hstop

/-- Two items that share a byte are the same item. -/
theorem eq_or_apart_of_mem_items {p q : Placed α} (hp : p ∈ items read? source t)
    (hq : q ∈ items read? source t) : p = q ∨ p.span.Apart q.span :=
  Span.eq_or_apart_of_pairwise (pairwise_items law t) hp hq

end Items

end PromptTemplate.Scan
