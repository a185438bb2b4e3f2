import PromptTemplate.Proofs.BracedItems

/-!
The tags of a block. A placed block begins with an opening tag and ends with a closing one
(`ToggleBlock.tag`), and both are tags of the text (`ToggleBlock.tag_mem_all`). Something between
double braces is apart from the block, lies in its body, is one of its tags or runs into one of them
from the left (`ToggleBlock.placement`). A tag cannot run into another one, so for tags the first
three cases are all (`ToggleBlock.apart_or_within_or_eq_tag`).
-/

set_option autoImplicit false
set_option relaxedAutoImplicit false

namespace PromptTemplate

namespace ToggleBlock

/-- The tag of a role of a placed block, where it stands. -/
def tag (b : Placed ToggleBlock) : TagRole → Placed ToggleTag
  | .opening => ⟨⟨.opening, b.item.writtenName⟩, ⟨b.span.start, (bodySpan b).start⟩⟩
  | .closing => ⟨⟨.closing, b.item.writtenName⟩, ⟨(bodySpan b).stop, b.span.stop⟩⟩

@[simp] theorem role_tag (b : Placed ToggleBlock) (role : TagRole) :
    (tag b role).item.role = role := by
  cases role <;> rfl

@[simp] theorem writtenName_tag (b : Placed ToggleBlock) (role : TagRole) :
    (tag b role).item.writtenName = b.item.writtenName := by
  cases role <;> rfl

/-- Whether a span runs into a tag of a block from the left. -/
def RunsIntoTag (t : Text) (s : Span) : Prop :=
  ∃ b ∈ all t, ∃ role, s.RunsInto (tag b role).span

/-- How something between double braces may lie to a block. -/
inductive Placement (b : Placed ToggleBlock) (s : Span) : Prop
  | apart (h : s.Apart b.span)
  | within (h : (bodySpan b).contains s = true)
  | isTag (role : TagRole) (h : s = (tag b role).span)
  | runsInto (role : TagRole) (h : s.RunsInto (tag b role).span)

section Tags

variable {t : Text} {b : Placed ToggleBlock} (hb : b ∈ all t)
include hb

/-- Each tag of a block covers its source. -/
theorem slice?_tag (role : TagRole) :
    (tag b role).span.slice? t = some (tag b role).item.source := by
  obtain ⟨pre, post, ht, hspan⟩ := Span.slice?_eq_some_iff.mp (slice?_of_mem_all hb)
  rw [source_eq] at ht
  cases role with
  | opening =>
    refine Span.slice?_eq_some_iff.mpr ⟨pre, b.item.body ++ b.item.closingTag ++ post, ?_, ?_⟩
    · rw [ht]
      simp only [tag, openingTag, List.append_assoc]
    · simp only [tag, bodySpan, hspan, openingTag]
  | closing =>
    refine Span.slice?_eq_some_iff.mpr ⟨pre ++ b.item.openingTag ++ b.item.body, post, ?_, ?_⟩
    · rw [ht]
      simp only [tag, closingTag, List.append_assoc]
    · simp only [tag, bodySpan, hspan, source_eq, closingTag, Text.width_append, Nat.add_assoc]

/-- The tags of a block lie in it. -/
theorem tag_within (role : TagRole) : b.span.start ≤ (tag b role).span.start ∧
    (tag b role).span.start < (tag b role).span.stop ∧ (tag b role).span.stop ≤ b.span.stop := by
  have hbody := bodySpan_within hb
  cases role <;> dsimp only [tag] <;> omega

/-- The tags of a block are tags of the text. -/
theorem tag_mem_all (role : TagRole) : tag b role ∈ ToggleTag.all role t := by
  refine ToggleTag.mem_all_iff.mpr ⟨role_tag b role, ?_, slice?_tag hb role⟩
  rw [writtenName_tag]
  exact isName_of_mem_all hb

/-- Something between double braces is apart from a block, lies in its body, is one of its tags or
runs into one of its tags from the left. -/
theorem placement {m : Text} {s : Span} (hm : IsBraced m) (hcolon : ':' ∈ m)
    (hs : s.slice? t = some m) : Placement b s := by
  have hmeets : ∀ role, ¬ s.Apart (tag b role).span → Placement b s := by
    intro role hmeet
    obtain ⟨-, hname, htag⟩ := ToggleTag.mem_all_iff.mp (tag_mem_all hb role)
    rcases ToggleTag.eq_or_runsInto hname htag hm hcolon hs hmeet with heq | hruns
    · exact Placement.isTag role heq
    · exact Placement.runsInto role hruns
  by_cases hopening : s.Apart (tag b .opening).span
  · by_cases hclosing : s.Apart (tag b .closing).span
    · rcases hopening with hbefore | hbehind
      · exact Placement.apart (Or.inl hbefore)
      · rcases hclosing with hbefore' | hbehind'
        · refine Placement.within ?_
          rw [Span.contains, Bool.and_eq_true, decide_eq_true_eq, decide_eq_true_eq]
          exact ⟨hbehind, hbefore'⟩
        · exact Placement.apart (Or.inr hbehind')
    · exact hmeets .closing hclosing
  · exact hmeets .opening hopening

/-- A tag of the text that stands where a tag of a block stands is that tag. -/
theorem eq_tag_of_span_eq {role role' : TagRole} {p : Placed ToggleTag}
    (hp : p ∈ ToggleTag.all role t) (h : p.span = (tag b role').span) : p = tag b role := by
  obtain ⟨hrole, hname, hslice⟩ := ToggleTag.mem_all_iff.mp hp
  obtain ⟨hrole', hname', hslice'⟩ := ToggleTag.mem_all_iff.mp (tag_mem_all hb role')
  rw [h, hslice', Option.some.injEq] at hslice
  have hitem := ToggleTag.source_injective hname' hname hslice
  obtain rfl : role' = role := by rw [← hrole', hitem, hrole]
  exact congrArg₂ Placed.mk hitem.symm h

/-- A tag of the text is apart from a block, lies in its body or is one of its tags. What runs into
a tag shares a byte with it, and a tag that does so stands where it stands. -/
theorem apart_or_within_or_eq_tag {role : TagRole} {p : Placed ToggleTag}
    (hp : p ∈ ToggleTag.all role t) : p.span.Apart b.span ∨
      (bodySpan b).contains p.span = true ∨ p = tag b role := by
  obtain ⟨-, hname, hslice⟩ := ToggleTag.mem_all_iff.mp hp
  cases placement hb (ToggleTag.isBraced_source hname) (ToggleTag.colon_mem_source _) hslice with
  | apart hapart => exact Or.inl hapart
  | within hwithin => exact Or.inr (Or.inl hwithin)
  | isTag role' hspan => exact Or.inr (Or.inr (eq_tag_of_span_eq hb hp hspan))
  | runsInto role' hruns =>
    obtain ⟨hstart, hstop⟩ := hruns
    have hwithin := tag_within hb role'
    have hspan := ToggleTag.span_eq_of_not_apart hp (tag_mem_all hb role') fun hapart ↦ by
      unfold Span.Apart at hapart
      omega
    exact Or.inr (Or.inr (eq_tag_of_span_eq hb hp hspan))

/-- An opening tag that starts with a block opens it. -/
theorem start_eq_iff {p : Placed ToggleTag} (hp : p ∈ ToggleTag.all .opening t) :
    b.span.start = p.span.start ↔ p = tag b .opening := by
  constructor
  · intro hstart
    have hbody := bodySpan_within hb
    obtain ⟨hrole, hname, hslice⟩ := ToggleTag.mem_all_iff.mp hp
    have hlt := (ToggleTag.braced .opening).start_lt_stop ⟨hrole, hname⟩ hslice
    rcases apart_or_within_or_eq_tag hb hp with hapart | hwithin | heq
    · exact absurd hstart.symm (hapart.start_ne hlt (by omega))
    · rw [Span.contains, Bool.and_eq_true, decide_eq_true_eq] at hwithin
      omega
    · exact heq
  · rintro rfl
    rfl

/-- A block contains its own closing tag and those that lie in its body. -/
theorem contains_iff {p : Placed ToggleTag} (hp : p ∈ ToggleTag.all .closing t) :
    b.span.contains p.span = true ↔
      p = tag b .closing ∨ (bodySpan b).contains p.span = true := by
  have hbody := bodySpan_within hb
  simp only [Span.contains, Bool.and_eq_true, decide_eq_true_eq]
  constructor
  · intro hcontains
    obtain ⟨hrole, hname, hslice⟩ := ToggleTag.mem_all_iff.mp hp
    have hlt := (ToggleTag.braced .closing).start_lt_stop ⟨hrole, hname⟩ hslice
    rcases apart_or_within_or_eq_tag hb hp with hapart | hwithin | heq
    · unfold Span.Apart at hapart
      omega
    · simp only [Span.contains, Bool.and_eq_true, decide_eq_true_eq] at hwithin
      exact Or.inr hwithin
    · exact Or.inl heq
  · rintro (rfl | hwithin)
    · simp only [tag]
      omega
    · omega

end Tags

end ToggleBlock

end PromptTemplate
