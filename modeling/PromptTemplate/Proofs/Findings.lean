import PromptTemplate.Diagnostic
import PromptTemplate.Proofs.StableSorting

/-!
What is among the findings of a text. Each sort of finding has its own list, and a finding of the
text is in one of them (`mem_ofText_iff`). The lists say which tag, directive or control each
finding is about (`mem_openingTags_iff`, `mem_closingTags_iff`, `mem_unknownKinds_iff`,
`mem_redeclarationsAfter_iff`), and its place is the place of that.
-/

set_option autoImplicit false
set_option relaxedAutoImplicit false

namespace PromptTemplate

/-- Whether a finding is about a toggle tag. -/
def Finding.concernsTag : Finding → Bool
  | .unclosedToggle _ | .orphanToggleClose _ | .nestedToggle _ _ => true
  | .unknownKind _ _ | .conflictingDefaults .. => false

namespace Diagnostic

/-- What is found about an opening tag that opens no block. -/
def openingFinding (t : Text) (p : Placed ToggleTag) : Finding :=
  match (ToggleBlock.all t).find? fun b ↦ (ToggleBlock.bodySpan b).contains p.span with
  | some parent => .nestedToggle p.item.name parent.item.name
  | none => .unclosedToggle p.item.name

variable {t : Text} {f : Diagnostic}

/-- An opening tag is reported unless a block begins with it. -/
theorem mem_openingTags_iff : f ∈ openingTags t ↔
    ∃ p ∈ ToggleTag.all .opening t,
      (∀ b ∈ ToggleBlock.all t, b.span.start ≠ p.span.start) ∧
        f = ⟨openingFinding t p, p.span⟩ := by
  rw [openingTags, List.mem_filterMap]
  refine exists_congr fun p ↦ and_congr_right fun _ ↦ ?_
  rw [Option.ite_none_left_eq_some, List.any_eq_true]
  simp only [beq_iff_eq, not_exists, not_and, Option.some.injEq, eq_comm (b := f)]
  rfl

/-- A closing tag is reported unless it lies in a block. -/
theorem mem_closingTags_iff : f ∈ closingTags t ↔
    ∃ p ∈ ToggleTag.all .closing t,
      (∀ b ∈ ToggleBlock.all t, ¬ b.span.contains p.span = true) ∧
        f = ⟨.orphanToggleClose p.item.name, p.span⟩ := by
  rw [closingTags, List.mem_filterMap]
  refine exists_congr fun p ↦ and_congr_right fun _ ↦ ?_
  rw [Option.ite_none_left_eq_some, List.any_eq_true]
  simp only [not_exists, not_and, Option.some.injEq, eq_comm (b := f)]

/-- A directive with a word that is no kind is reported. -/
theorem mem_unknownKinds_iff : f ∈ unknownKinds t ↔
    ∃ d ∈ Directive.wordy t, d.item.kind? = none ∧
      f = ⟨.unknownKind d.item.keyword d.item.name, d.span⟩ := by
  rw [unknownKinds, List.mem_filterMap]
  refine exists_congr fun d ↦ and_congr_right fun _ ↦ ?_
  rw [Option.ite_none_left_eq_some, Option.not_isSome_iff_eq_none, Option.some.injEq,
    eq_comm (b := f)]

/-- What is found about a declaration that states something else than the first one of its
control. -/
def redeclarationFinding (first d : Declaration) : Diagnostic :=
  ⟨.conflictingDefaults d.kind d.name (signature first) (signature d), d.span⟩

/-- What is reported of a declaration among others: that it states something else than the first one
of its control. -/
def redeclaration? (ds : List Declaration) (d : Declaration) : Option Diagnostic :=
  (ds.find? (Declaration.sameControl d)).bind fun first ↦
    if signature first = signature d then none else some (redeclarationFinding first d)

/-- Each declaration is compared with the first one of its control among all of them. A declaration
that comes later is not the first one. -/
theorem redeclarationsAfter_eq (before ds : List Declaration) :
    redeclarationsAfter before ds = ds.filterMap (redeclaration? (before ++ ds)) := by
  induction ds generalizing before with
  | nil => rfl
  | cons d ds ih =>
    have happend : before ++ d :: ds = (before ++ [d]) ++ ds := by simp
    have hself : Declaration.sameControl d d = true := beq_self_eq_true d.key
    rw [redeclarationsAfter]
    cases hfirst : before.find? (Declaration.sameControl d) with
    | none =>
      have hnone : redeclaration? (before ++ d :: ds) d = none := by
        rw [redeclaration?, List.find?_append, hfirst, List.find?_cons_of_pos hself, Option.none_or,
          Option.bind_some, if_pos rfl]
      dsimp only
      rw [List.filterMap_cons_none hnone, ih, ← happend]
    | some first =>
      have hlater : redeclaration? (before ++ d :: ds) = redeclaration? (before ++ ds) := by
        funext d'
        rw [redeclaration?, redeclaration?, List.find?_append, List.find?_append, List.find?_cons]
        split
        · rename_i hsame
          have hkey : d'.key = d.key := beq_iff_eq.mp hsame
          have hsameControl : Declaration.sameControl d' = Declaration.sameControl d := by
            funext other
            simp only [Declaration.sameControl, hkey]
          rw [hsameControl, hfirst, Option.some_or, Option.some_or]
        · rfl
      have hhead : redeclaration? (before ++ d :: ds) d =
          if signature first = signature d then none else some (redeclarationFinding first d) := by
        rw [redeclaration?, List.find?_append, hfirst, Option.some_or, Option.bind_some]
      dsimp only
      rw [List.filterMap_cons, hhead, hlater, ih]
      split
      · rfl
      · rfl

/-- What is reported are the declarations that state something else than the first one of their
control, and nothing else. -/
theorem mem_redeclarationsAfter_iff {before ds : List Declaration} :
    f ∈ redeclarationsAfter before ds ↔
      ∃ d ∈ ds, ∃ first, (before ++ ds).find? (Declaration.sameControl d) = some first ∧
        signature first ≠ signature d ∧ f = redeclarationFinding first d := by
  rw [redeclarationsAfter_eq, List.mem_filterMap]
  refine exists_congr fun d ↦ and_congr_right fun _ ↦ ?_
  rw [redeclaration?, Option.bind_eq_some_iff]
  refine exists_congr fun first ↦ and_congr_right fun _ ↦ ?_
  rw [Option.ite_none_left_eq_some, Option.some.injEq, eq_comm (b := f), ne_eq]

/-- A finding about a redeclaration is about one of the declarations that were looked at. -/
theorem exists_of_mem_redeclarationsAfter {before ds : List Declaration}
    (hf : f ∈ redeclarationsAfter before ds) :
    f.finding.concernsTag = false ∧ ∃ d ∈ ds, f.span = d.span := by
  obtain ⟨d, hd, first, -, -, rfl⟩ := mem_redeclarationsAfter_iff.mp hf
  exact ⟨rfl, d, hd, rfl⟩

theorem mem_ofText_iff : f ∈ ofText t ↔
    f ∈ openingTags t ∨ f ∈ closingTags t ∨ f ∈ unknownKinds t ∨ f ∈ redeclarations t := by
  rw [ofText, mem_sortBy]
  simp only [List.mem_append, or_assoc]

/-- The findings about tags are those about opening and about closing tags. -/
theorem concernsTag_iff (hf : f ∈ ofText t) :
    f.finding.concernsTag = true ↔ f ∈ openingTags t ∨ f ∈ closingTags t := by
  constructor
  · intro hconcerns
    rcases mem_ofText_iff.mp hf with hf | hf | hf | hf
    · exact Or.inl hf
    · exact Or.inr hf
    · obtain ⟨d, -, -, rfl⟩ := mem_unknownKinds_iff.mp hf
      cases hconcerns
    · rw [(exists_of_mem_redeclarationsAfter hf).1] at hconcerns
      cases hconcerns
  · rintro (hf | hf)
    · obtain ⟨p, -, -, rfl⟩ := mem_openingTags_iff.mp hf
      dsimp only
      unfold openingFinding
      split <;> rfl
    · obtain ⟨p, -, -, rfl⟩ := mem_closingTags_iff.mp hf
      rfl

end Diagnostic

end PromptTemplate
