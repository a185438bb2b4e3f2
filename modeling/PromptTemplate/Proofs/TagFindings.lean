import PromptTemplate.Proofs.BlockTags
import PromptTemplate.Proofs.Findings
import PromptTemplate.Rendering

/-!
What the findings say about the toggle tags of a text. An opening tag is reported unless it opens a
block (`exists_mem_openingTags_iff`). A closing tag is reported unless a block contains it, and a
block contains the tags in its body along with its own (`exists_mem_closingTags_iff`). So a closing
tag that closes nothing is passed over in a body (`not_reported_in_body`), and these are the only
tags without a block in a text without findings about tags (`forall_concernsTag_eq_false_iff`).
-/

set_option autoImplicit false
set_option relaxedAutoImplicit false

namespace PromptTemplate.Diagnostic

variable {t : Text}

/-- An opening tag is reported unless it opens a block. -/
theorem exists_mem_openingTags_iff {s : Span} : (∃ f ∈ openingTags t, f.span = s) ↔
    ∃ p ∈ ToggleTag.all .opening t,
      (∀ b ∈ ToggleBlock.all t, p ≠ ToggleBlock.tag b .opening) ∧ p.span = s := by
  constructor
  · rintro ⟨f, hf, rfl⟩
    obtain ⟨p, hp, hnone, rfl⟩ := mem_openingTags_iff.mp hf
    exact ⟨p, hp, fun b hb heq ↦ hnone b hb ((ToggleBlock.start_eq_iff hb hp).mpr heq), rfl⟩
  · rintro ⟨p, hp, hnone, rfl⟩
    exact ⟨_, mem_openingTags_iff.mpr ⟨p, hp, fun b hb hstart ↦
      hnone b hb ((ToggleBlock.start_eq_iff hb hp).mp hstart), rfl⟩, rfl⟩

/-- A closing tag is reported unless it closes a block or lies in the body of one. -/
theorem exists_mem_closingTags_iff {s : Span} : (∃ f ∈ closingTags t, f.span = s) ↔
    ∃ p ∈ ToggleTag.all .closing t,
      (∀ b ∈ ToggleBlock.all t, ¬ (p = ToggleBlock.tag b .closing ∨
        (ToggleBlock.bodySpan b).contains p.span = true)) ∧ p.span = s := by
  constructor
  · rintro ⟨f, hf, rfl⟩
    obtain ⟨p, hp, hnone, rfl⟩ := mem_closingTags_iff.mp hf
    exact ⟨p, hp, fun b hb hin ↦ hnone b hb ((ToggleBlock.contains_iff hb hp).mpr hin), rfl⟩
  · rintro ⟨p, hp, hnone, rfl⟩
    exact ⟨_, mem_closingTags_iff.mpr ⟨p, hp, fun b hb hcontains ↦
      hnone b hb ((ToggleBlock.contains_iff hb hp).mp hcontains), rfl⟩, rfl⟩

/-- A text has findings about its tags unless all opening tags open a block and all closing tags
close one or lie in a body. -/
theorem forall_concernsTag_eq_false_iff (t : Text) :
    (∀ f ∈ ofText t, f.finding.concernsTag = false) ↔
      (∀ p ∈ ToggleTag.all .opening t, ∃ b ∈ ToggleBlock.all t, p = ToggleBlock.tag b .opening) ∧
      ∀ p ∈ ToggleTag.all .closing t, ∃ b ∈ ToggleBlock.all t,
        p = ToggleBlock.tag b .closing ∨ (ToggleBlock.bodySpan b).contains p.span = true := by
  constructor
  · intro hnone
    have hopening : ∀ f, f ∉ openingTags t := fun f hf ↦ by
      have hmem := mem_ofText_iff.mpr (Or.inl hf)
      have htrue := (concernsTag_iff hmem).mpr (Or.inl hf)
      rw [hnone f hmem] at htrue
      cases htrue
    have hclosing : ∀ f, f ∉ closingTags t := fun f hf ↦ by
      have hmem := mem_ofText_iff.mpr (Or.inr (Or.inl hf))
      have htrue := (concernsTag_iff hmem).mpr (Or.inr hf)
      rw [hnone f hmem] at htrue
      cases htrue
    refine ⟨fun p hp ↦ ?_, fun p hp ↦ ?_⟩
    · by_contra hwithout
      push Not at hwithout
      obtain ⟨f, hf, -⟩ := exists_mem_openingTags_iff.mpr ⟨p, hp, hwithout, rfl⟩
      exact hopening f hf
    · by_contra hwithout
      have hwithout' := fun b hb hin ↦ hwithout ⟨b, hb, hin⟩
      obtain ⟨f, hf, -⟩ := exists_mem_closingTags_iff.mpr ⟨p, hp, hwithout', rfl⟩
      exact hclosing f hf
  · rintro ⟨hopening, hclosing⟩ f hf
    rw [Bool.eq_false_iff, ne_eq, concernsTag_iff hf]
    rintro (hf | hf)
    · obtain ⟨p, hp, hnone, -⟩ := exists_mem_openingTags_iff.mp ⟨f, hf, rfl⟩
      obtain ⟨b, hb, heq⟩ := hopening p hp
      exact hnone b hb heq
    · obtain ⟨p, hp, hnone, -⟩ := exists_mem_closingTags_iff.mp ⟨f, hf, rfl⟩
      obtain ⟨b, hb, hin⟩ := hclosing p hp
      exact hnone b hb hin

/-- Nothing is reported here, and the tag that closes `B` in the body of `A` closes no block: it is
what is left when `A` is kept. -/
theorem not_reported_in_body :
    ofText "{{toggle:A}}{{/toggle:B}}{{/toggle:A}}".toList = [] ∧
      (∃ p ∈ ToggleTag.all .closing "{{toggle:A}}{{/toggle:B}}{{/toggle:A}}".toList,
        ∀ b ∈ ToggleBlock.all "{{toggle:A}}{{/toggle:B}}{{/toggle:A}}".toList,
          p ≠ ToggleBlock.tag b .closing) ∧
      render "{{toggle:A}}{{/toggle:B}}{{/toggle:A}}".toList
          (Declaration.ofText "{{toggle:A}}{{/toggle:B}}{{/toggle:A}}".toList)
          ⟨[(['A'], .bool true)], List.pairwise_singleton _ _⟩ = .ok "{{/toggle:B}}".toList := by
  decide

end PromptTemplate.Diagnostic
