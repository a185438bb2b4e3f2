import PromptTemplate.Proofs.ScanPieces
import PromptTemplate.Proofs.ToggleGrammar

/-!
Scanning a text between other texts. Everything that is looked for in a template begins with the
opening mark and ends with the closing one. So text in which no opening mark starts, not even with
the first character behind it, is passed (`passes_of_literal`), and text in which no closing mark
ends, not even with the last character before it, does not complete anything (`Hides`): a reader
sees the same with it and without it (`Directive.closes_known`, `ToggleBlock.closes`).

A scan of the text then takes what it takes from the text alone, moved right by the bytes in front
(`items_surrounded`).
-/

set_option autoImplicit false
set_option relaxedAutoImplicit false

namespace PromptTemplate

/-- Text before and behind another text that neither begins nor completes a mark with it. -/
structure LiteralAround (t before behind : Text) : Prop where
  no_openMark : ¬ openMark <:+: before
  not_opening : before.getLast? ≠ some '{'
  no_closeMark : ¬ closeMark <:+: behind
  not_closing : ¬ (t.getLast? = some '}' ∧ behind.head? = some '}')

/-- An item that stands further right. -/
def Placed.shift {α : Type} (p : Placed α) (offset : Nat) : Placed α :=
  ⟨p.item, p.span.shift offset⟩

/-- Whether all that ends with a closing mark and stands at the head of a text with another one
behind it stands in the text alone. -/
def Hides (s behind : Text) : Prop :=
  ∀ pattern, closeMark <:+ pattern → pattern <+: s ++ behind → pattern <+: s

/-- Nothing is read across the end of a suffix of a text: it would end with a brace of what stands
behind or with both. -/
theorem hides_of_suffix {t before behind s : Text} (h : LiteralAround t before behind)
    (hs : s <:+ t) : Hides s behind := by
  rintro pattern ⟨inner, rfl⟩ ⟨post, hpost⟩
  rcases List.append_eq_append_iff.mp hpost with ⟨more, hsplit, -⟩ | ⟨more, hsplit, hbehind⟩
  · exact ⟨more, hsplit.symm⟩
  · have hno : ∀ front, more ≠ front ++ closeMark := fun front hmore ↦
      h.no_closeMark ⟨front, post, by rw [hbehind, hmore]⟩
    rcases List.append_eq_append_iff.mp hsplit with ⟨last, hlast, hmark⟩ | ⟨front, -, hfront⟩
    · match last with
      | [] => exact absurd hmark.symm (hno [])
      | [c] =>
        obtain ⟨rfl, rfl⟩ : c = '}' ∧ more = ['}'] := by simpa [closeMark, eq_comm] using hmark
        obtain ⟨front, rfl⟩ := hs
        refine absurd ⟨?_, ?_⟩ h.not_closing
        · rw [hlast, ← List.append_assoc, List.getLast?_concat]
        · rw [hbehind]
          rfl
      | c :: d :: last =>
        obtain ⟨-, -, -, rfl⟩ : c = '}' ∧ d = '}' ∧ last = [] ∧ more = [] := by
          simpa [closeMark, eq_comm] using hmark
        exact ⟨[], by rw [List.append_nil, hsplit, List.append_nil]⟩
    · exact absurd hfront (hno front)

/-- Text without a closing mark completes nothing on its own. -/
theorem hides_nil {t before behind s : Text} (h : LiteralAround t before behind)
    (hs : s <:+ behind) : Hides [] s := by
  rintro pattern ⟨inner, rfl⟩ hpattern
  exact absurd ((List.suffix_append inner closeMark).isInfix.trans
    (hpattern.isInfix.trans hs.isInfix)) h.no_closeMark

namespace Scan

variable {α : Type} {read? : Text → Option α} {source : α → Text}

/-! ### Items further right -/

/-- A scan that starts at another offset takes the same items, moved. -/
theorem itemsFrom_add (origin offset skip : Nat) (t : Text) :
    itemsFrom read? source (offset + origin) skip t =
      (itemsFrom read? source offset skip t).map (·.shift origin) := by
  induction t generalizing offset skip with
  | nil => rw [itemsFrom_nil, itemsFrom_nil, List.map_nil]
  | cons c t ih =>
    have hnext : offset + origin + c.utf8Size = offset + c.utf8Size + origin := by omega
    cases skip with
    | succ skip => rw [itemsFrom, itemsFrom, hnext, ih]
    | zero =>
      rw [itemsFrom, itemsFrom]
      cases read? (c :: t) with
      | none => exact hnext ▸ ih _ _
      | some item =>
        dsimp only
        rw [hnext, ih, List.map_cons, Placed.shift, Span.shift, Nat.add_right_comm]

/-! ### Text in front and text behind -/

/-- Nothing is read in text where no opening mark starts. -/
theorem passes_of_literal (law : Opens read?) {t before behind : Text}
    (h : LiteralAround t before behind) : Passes read? before := by
  intro s hs hsuffix more
  refine law.eq_none fun hopen ↦ ?_
  match s with
  | [] => exact hs rfl
  | [c] =>
    obtain ⟨front, rfl⟩ := hsuffix
    obtain rfl : '{' = c := (List.cons_prefix_cons.mp hopen).1
    exact h.not_opening List.getLast?_concat
  | c :: d :: s =>
    refine h.no_openMark (List.IsInfix.trans ?_ hsuffix.isInfix)
    exact (List.prefix_of_prefix_length_le hopen (List.prefix_append _ more)
      (Nat.le_add_left 2 s.length)).isInfix

/-- Whether text that completes no closing mark makes no difference to a reader. -/
def Closes (read? : Text → Option α) : Prop :=
  ∀ {s behind : Text}, Hides s behind → read? (s ++ behind) = read? s

/-- A scan goes on from a text into text that completes nothing and takes nothing from it. -/
theorem Run.append_right (law : Closes read?) (hnil : read? [] = none) {t before behind : Text}
    (h : LiteralAround t before behind) {s : Text} (hs : s <:+ t) {offset : Nat}
    {found : List (Placed α)} (run : Run read? source offset s found) :
    Run read? source offset (s ++ behind) found := by
  induction run with
  | done offset =>
    have hpass : ∀ u offset, u <:+ behind → Run read? source offset u [] := by
      intro u
      induction u with
      | nil => exact fun offset _ ↦ Run.done offset
      | cons c u ih =>
        intro offset hu
        refine Run.pass ?_ (ih _ ((List.suffix_cons c u).trans hu))
        exact (law (hides_nil h hu)).trans hnil
    exact hpass behind offset (List.suffix_refl _)
  | pass hread _ ih =>
    refine Run.pass ?_ (ih ((List.suffix_cons _ _).trans hs))
    exact (law (hides_of_suffix h hs)).trans hread
  | take hread _ ih =>
    rw [List.append_assoc]
    refine Run.take ?_ (ih ((List.suffix_append _ _).trans hs))
    rw [← List.append_assoc]
    exact (law (hides_of_suffix h hs)).trans hread

/-- What is found in a text between other texts is what is found in the text alone, further
right. -/
theorem items_surrounded (lawful : Lawful read? source) (opens : Opens read?)
    (closes : Closes read?) {t before behind : Text} (h : LiteralAround t before behind) :
    items read? source (before ++ t ++ behind) =
      (items read? source t).map (·.shift before.width) := by
  have hnil : read? [] = none := opens.eq_none (by decide)
  have run := (run_itemsFrom lawful (0 + before.width) t).append_right closes hnil h
    (List.suffix_refl t)
  have hall := (passes_of_literal opens h).reads _ _ _ run
  rw [List.append_assoc]
  exact (hall.eq_itemsFrom lawful).symm.trans (itemsFrom_add _ _ _ _)

end Scan

/-! ### Directives and blocks -/

namespace Directive

/-- A directive ends with its closing mark. -/
theorem closes_known : Scan.Closes fun t ↦ (read? t).filter (·.kind?.isSome) := by
  intro s behind h
  have hread : read? (s ++ behind) = read? s := by
    refine Option.ext fun d ↦ ?_
    rw [read?_eq_some_iff, read?_eq_some_iff]
    exact and_congr_right fun _ ↦ ⟨h d.source d.closeMark_isSuffix_source,
      fun hsource ↦ hsource.trans (List.prefix_append s behind)⟩
  simp only [hread]

/-- Literal text around a text adds no directive. -/
theorem known_surrounded {t before behind : Text} (h : LiteralAround t before behind) :
    known (before ++ t ++ behind) = (known t).map (·.shift before.width) :=
  Scan.items_surrounded lawful_known (lawful_known.opens openMark_isPrefix_source) closes_known h

end Directive

namespace ToggleBlock

theorem closes : Scan.Closes read? := by
  intro s behind h
  have happend : ∀ pattern, closeMark <:+ pattern → (pattern <+: s ++ behind ↔ pattern <+: s) :=
    fun pattern hpattern ↦ ⟨h pattern hpattern, fun hs ↦ hs.trans (List.prefix_append s behind)⟩
  refine Option.ext fun b ↦ ?_
  rw [read?_eq_some_iff, read?_eq_some_iff]
  have hclosing : ∀ v, closeMark <:+ b.openingTag ++ (v ++ b.closingTag) := fun v ↦
    (b.closeMark_isSuffix_closingTag.trans (List.suffix_append _ _)).trans
      (List.suffix_append _ _)
  rw [source_eq, happend _ (hclosing _)]
  simp only [happend _ (hclosing _)]

/-- Literal text around a text adds no block. -/
theorem all_surrounded {t before behind : Text} (h : LiteralAround t before behind) :
    all (before ++ t ++ behind) = (all t).map (·.shift before.width) :=
  Scan.items_surrounded lawful (lawful.opens openMark_isPrefix_source) closes h

end ToggleBlock

end PromptTemplate
