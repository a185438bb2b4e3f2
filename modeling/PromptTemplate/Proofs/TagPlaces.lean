import PromptTemplate.Proofs.ConsistentDefaults
import PromptTemplate.Proofs.DirectiveFindings
import PromptTemplate.Proofs.PlacedFindings

/-!
Where the tags of a text stand, and what is found about each. A tag is one of a block, lies in the
body of a block or shares no byte with any of them, and the blocks share no byte with each other, so
it has one such place (`ToggleTag.existsUnique_takes`). Its place decides what is found about it:
nothing about a tag of a block, that an opening tag in a body is nested there, that an opening tag
outside of all blocks is not closed, and that a closing tag outside of them has no opening one.
Nothing else is found where a tag stands, and no tag is found fault with elsewhere
(`tagsDivided`).
-/

set_option autoImplicit false
set_option relaxedAutoImplicit false

namespace PromptTemplate

/-- How a tag may stand to the blocks of a text. -/
inductive TagPlace where
  | ofBlock (b : Placed ToggleBlock)
  | inBody (b : Placed ToggleBlock)
  | outside

/-- What is to be found about a tag in a place. -/
def TagPlace.findings (tag : ToggleTag) : TagPlace → List Finding
  | .ofBlock _ => []
  | .inBody b =>
    match tag.role with
    | .opening => [.nestedToggle tag.name b.item.name]
    | .closing => []
  | .outside =>
    match tag.role with
    | .opening => [.unclosedToggle tag.name]
    | .closing => [.orphanToggleClose tag.name]

namespace ToggleTag

/-- Whether a tag stands in a place: as the opening or the closing tag of a block, in the body of a
block, or sharing no byte with a block. -/
def Takes (t : Text) (p : Placed ToggleTag) : TagPlace → Prop
  | .ofBlock b => b ∈ ToggleBlock.all t ∧ p = ToggleBlock.tag b p.item.role
  | .inBody b => b ∈ ToggleBlock.all t ∧ (ToggleBlock.bodySpan b).contains p.span = true
  | .outside => ∀ b ∈ ToggleBlock.all t, p.span.Apart b.span

variable {t : Text} {role : TagRole} {p : Placed ToggleTag}

theorem start_lt_stop_of_mem_all (hp : p ∈ all role t) : p.span.start < p.span.stop := by
  obtain ⟨hrole, hname, hslice⟩ := mem_all_iff.mp hp
  exact (braced role).start_lt_stop ⟨hrole, hname⟩ hslice

/-! ### One place for each tag -/

/-- A tag that is one of a block or lies in its body lies in the block. -/
theorem within_of_takes {b : Placed ToggleBlock}
    (h : Takes t p (.ofBlock b) ∨ Takes t p (.inBody b)) :
    b ∈ ToggleBlock.all t ∧ b.span.start ≤ p.span.start ∧ p.span.stop ≤ b.span.stop := by
  rcases h with ⟨hb, heq⟩ | ⟨hb, hcontains⟩
  · have hwithin := ToggleBlock.tag_within hb p.item.role
    rw [← heq] at hwithin
    exact ⟨hb, hwithin.1, hwithin.2.2⟩
  · have hbody := ToggleBlock.bodySpan_within hb
    rw [Span.contains, Bool.and_eq_true, decide_eq_true_eq, decide_eq_true_eq] at hcontains
    exact ⟨hb, by omega, by omega⟩

/-- A tag lies in one block at most. -/
theorem eq_of_takes (hp : p ∈ all role t) {b b' : Placed ToggleBlock}
    (h : Takes t p (.ofBlock b) ∨ Takes t p (.inBody b))
    (h' : Takes t p (.ofBlock b') ∨ Takes t p (.inBody b')) : b = b' := by
  obtain ⟨hb, hstart, hstop⟩ := within_of_takes h
  obtain ⟨hb', hstart', hstop'⟩ := within_of_takes h'
  have hlt := start_lt_stop_of_mem_all hp
  rcases Scan.eq_or_apart_of_mem_items ToggleBlock.lawful t hb hb' with heq | hapart
  · exact heq
  · unfold Span.Apart at hapart
    omega

/-- The tags of a block do not lie in its body. -/
theorem not_takes_inBody_of_takes_ofBlock (hp : p ∈ all role t) {b : Placed ToggleBlock}
    (h : Takes t p (.ofBlock b)) : ¬ Takes t p (.inBody b) := by
  rintro ⟨-, hcontains⟩
  have hlt := start_lt_stop_of_mem_all hp
  rw [h.2, Span.contains, Bool.and_eq_true, decide_eq_true_eq, decide_eq_true_eq] at hcontains
  rw [h.2] at hlt
  cases hrole : p.item.role with
  | opening =>
    rw [hrole] at hcontains hlt
    exact absurd hcontains.1 (Nat.not_le.mpr hlt)
  | closing =>
    rw [hrole] at hcontains hlt
    exact absurd hcontains.2 (Nat.not_le.mpr hlt)

/-- A tag outside of all blocks lies in none. -/
theorem not_takes_outside_of_takes (hp : p ∈ all role t) {b : Placed ToggleBlock}
    (h : Takes t p (.ofBlock b) ∨ Takes t p (.inBody b)) : ¬ Takes t p .outside := by
  intro houtside
  obtain ⟨hb, hstart, hstop⟩ := within_of_takes h
  have hlt := start_lt_stop_of_mem_all hp
  have hapart := houtside b hb
  unfold Span.Apart at hapart
  omega

/-- A tag stands in one place. -/
theorem eq_of_takes_of_takes (hp : p ∈ all role t) {place place' : TagPlace}
    (h : Takes t p place) (h' : Takes t p place') : place = place' := by
  match place, place' with
  | .ofBlock b, .ofBlock b' => rw [eq_of_takes hp (.inl h) (.inl h')]
  | .inBody b, .inBody b' => rw [eq_of_takes hp (.inr h) (.inr h')]
  | .outside, .outside => rfl
  | .ofBlock b, .inBody b' =>
    obtain rfl := eq_of_takes hp (.inl h) (.inr h')
    exact absurd h' (not_takes_inBody_of_takes_ofBlock hp h)
  | .inBody b, .ofBlock b' =>
    obtain rfl := eq_of_takes hp (.inr h) (.inl h')
    exact absurd h (not_takes_inBody_of_takes_ofBlock hp h')
  | .ofBlock b, .outside => exact absurd h' (not_takes_outside_of_takes hp (.inl h))
  | .inBody b, .outside => exact absurd h' (not_takes_outside_of_takes hp (.inr h))
  | .outside, .ofBlock b => exact absurd h (not_takes_outside_of_takes hp (.inl h'))
  | .outside, .inBody b => exact absurd h (not_takes_outside_of_takes hp (.inr h'))

/-- Every tag of a text has one place. -/
theorem existsUnique_takes (hp : p ∈ all role t) : ∃! place, Takes t p place := by
  have hplace : ∃ place, Takes t p place := by
    by_cases hapart : ∀ b ∈ ToggleBlock.all t, p.span.Apart b.span
    · exact ⟨.outside, hapart⟩
    · push Not at hapart
      obtain ⟨b, hb, hmeet⟩ := hapart
      rcases ToggleBlock.apart_or_within_or_eq_tag hb hp with h | hwithin | heq
      · exact absurd h hmeet
      · exact ⟨.inBody b, hb, hwithin⟩
      · refine ⟨.ofBlock b, hb, ?_⟩
        rw [(mem_all_iff.mp hp).1]
        exact heq
  obtain ⟨place, htakes⟩ := hplace
  exact ⟨place, htakes, fun place' h ↦ eq_of_takes_of_takes hp h htakes⟩

/-- Tags that stand at the same place are the same, and so are their roles. -/
theorem eq_of_mem_all_of_span_eq {role' : TagRole} {q : Placed ToggleTag} (hp : p ∈ all role t)
    (hq : q ∈ all role' t) (h : q.span = p.span) : q = p ∧ role' = role := by
  obtain ⟨hrole, hname, hslice⟩ := mem_all_iff.mp hp
  obtain ⟨hrole', hname', hslice'⟩ := mem_all_iff.mp hq
  rw [h, hslice, Option.some.injEq] at hslice'
  have hitem : q.item = p.item := (source_injective hname hname' hslice').symm
  exact ⟨congrArg₂ Placed.mk hitem h, by rw [← hrole', hitem, hrole]⟩

end ToggleTag

namespace Diagnostic

open ToggleTag

variable {t : Text} {role : TagRole} {p : Placed ToggleTag}

/-! ### What is reported of a tag -/

/-- What is reported of an opening tag. -/
def openingDiagnostic? (t : Text) (p : Placed ToggleTag) : Option Diagnostic :=
  if (ToggleBlock.all t).any fun b ↦ b.span.start == p.span.start then none
  else some ⟨openingFinding t p, p.span⟩

/-- What is reported of a closing tag. -/
def closingDiagnostic? (t : Text) (p : Placed ToggleTag) : Option Diagnostic :=
  if (ToggleBlock.all t).any fun b ↦ b.span.contains p.span then none
  else some ⟨.orphanToggleClose p.item.name, p.span⟩

/-- An opening tag is reported where it stands. -/
theorem span_of_openingDiagnostic? {f : Diagnostic} (h : openingDiagnostic? t p = some f) :
    f.span = p.span := by
  rw [openingDiagnostic?, Option.ite_none_left_eq_some, Option.some.injEq] at h
  rw [← h.2]

/-- A closing tag is reported where it stands. -/
theorem span_of_closingDiagnostic? {f : Diagnostic} (h : closingDiagnostic? t p = some f) :
    f.span = p.span := by
  rw [closingDiagnostic?, Option.ite_none_left_eq_some, Option.some.injEq] at h
  rw [← h.2]

/-- The body that an opening tag is found to lie in is the one that it lies in. -/
theorem openingFinding_of_takes_inBody (hp : p ∈ all role t) {b : Placed ToggleBlock}
    (h : Takes t p (.inBody b)) :
    openingFinding t p = .nestedToggle p.item.name b.item.name := by
  have hfind : (ToggleBlock.all t).find? (fun b ↦ (ToggleBlock.bodySpan b).contains p.span) =
      some b := by
    have hsome : ((ToggleBlock.all t).find? fun b ↦
        (ToggleBlock.bodySpan b).contains p.span).isSome = true :=
      List.find?_isSome.mpr ⟨b, h.1, h.2⟩
    obtain ⟨b', hb'⟩ := Option.isSome_iff_exists.mp hsome
    have hcontains := List.find?_some hb'
    have htakes : Takes t p (.inBody b') := ⟨List.mem_of_find?_eq_some hb', hcontains⟩
    rw [hb', eq_of_takes hp (.inr htakes) (.inr h)]
  rw [openingFinding, hfind]

/-- An opening tag outside of the blocks is reported as one that is never closed. -/
theorem openingFinding_of_takes_outside (hp : p ∈ all role t) (h : Takes t p .outside) :
    openingFinding t p = .unclosedToggle p.item.name := by
  have hfind : (ToggleBlock.all t).find? (fun b ↦ (ToggleBlock.bodySpan b).contains p.span) =
      none :=
    List.find?_eq_none.mpr fun b hb hcontains ↦
      not_takes_outside_of_takes hp (.inr ⟨hb, hcontains⟩) h
  rw [openingFinding, hfind]

/-- What is reported of an opening tag is decided by its place. -/
theorem openingDiagnostic?_toList (hp : p ∈ all .opening t) {place : TagPlace}
    (h : Takes t p place) : (openingDiagnostic? t p).toList =
      (place.findings p.item).map (Diagnostic.mk · p.span) := by
  have hrole := (mem_all_iff.mp hp).1
  have hopens : ((ToggleBlock.all t).any fun b ↦ b.span.start == p.span.start) = true ↔
      ∃ b, Takes t p (.ofBlock b) := by
    rw [List.any_eq_true]
    refine exists_congr fun b ↦ and_congr_right fun hb ↦ ?_
    rw [beq_iff_eq, ToggleBlock.start_eq_iff hb hp, hrole]
  rw [openingDiagnostic?]
  cases place with
  | ofBlock b =>
    rw [if_pos (hopens.mpr ⟨b, h⟩)]
    rfl
  | inBody b =>
    rw [if_neg (hopens.not.mpr fun ⟨b', h'⟩ ↦ by
      cases eq_of_takes_of_takes hp h h'), openingFinding_of_takes_inBody hp h, TagPlace.findings,
      hrole]
    rfl
  | outside =>
    rw [if_neg (hopens.not.mpr fun ⟨b', h'⟩ ↦ by
      cases eq_of_takes_of_takes hp h h'), openingFinding_of_takes_outside hp h, TagPlace.findings,
      hrole]
    rfl

/-- What is reported of a closing tag is decided by its place. -/
theorem closingDiagnostic?_toList (hp : p ∈ all .closing t) {place : TagPlace}
    (h : Takes t p place) : (closingDiagnostic? t p).toList =
      (place.findings p.item).map (Diagnostic.mk · p.span) := by
  have hrole := (mem_all_iff.mp hp).1
  have hcontained : ((ToggleBlock.all t).any fun b ↦ b.span.contains p.span) = true ↔
      ∃ b, Takes t p (.ofBlock b) ∨ Takes t p (.inBody b) := by
    rw [List.any_eq_true]
    refine exists_congr fun b ↦ ?_
    rw [Takes, Takes, ← and_or_left, hrole]
    exact and_congr_right fun hb ↦ ToggleBlock.contains_iff hb hp
  rw [closingDiagnostic?]
  cases place with
  | ofBlock b =>
    rw [if_pos (hcontained.mpr ⟨b, .inl h⟩)]
    rfl
  | inBody b =>
    rw [if_pos (hcontained.mpr ⟨b, .inr h⟩), TagPlace.findings, hrole]
    rfl
  | outside =>
    rw [if_neg (hcontained.not.mpr fun ⟨b, hin⟩ ↦ not_takes_outside_of_takes hp hin h),
      TagPlace.findings, hrole]
    rfl

/-! ### What is found where a tag stands -/

section Filter

variable {g : Placed ToggleTag → Option Diagnostic} (hg : ∀ q f, g q = some f → f.span = q.span)
include hg

/-- Of what is reported of tags, what stands where a tag stands is reported of that tag. -/
theorem filter_filterMap_tags (hp : p ∈ all role t) :
    ((all role t).filterMap g).filter (·.span == p.span) = (g p).toList := by
  have hnodup : (all role t).Nodup := by
    refine (Scan.pairwise_start_items (ToggleTag.lawful role) t).imp fun {q q'} hlt heq ↦ ?_
    rw [heq] at hlt
    exact Nat.lt_irrefl _ hlt
  refine filter_filterMap_of_mem hnodup hp (fun f hf ↦ beq_iff_eq.mpr (hg p f hf)) ?_
  intro q hq hne f hf
  rw [hg q f hf, beq_eq_false_iff_ne]
  exact fun hspan ↦ hne (eq_of_mem_all_of_span_eq hp hq hspan).1

theorem filter_filterMap_tags_of_ne (hp : p ∈ all role t) {role' : TagRole} (hne : role' ≠ role) :
    ((all role' t).filterMap g).filter (·.span == p.span) = [] := by
  refine filter_filterMap_eq_nil fun q hq f hf ↦ ?_
  rw [hg q f hf, beq_eq_false_iff_ne]
  exact fun hspan ↦ hne (eq_of_mem_all_of_span_eq hp hq hspan).2

end Filter

/-- A tag is no directive of an unknown kind: its keyword is one of a kind or no word. -/
theorem filter_unknownKinds (hp : p ∈ all role t) :
    (unknownKinds t).filter (·.span == p.span) = [] := by
  obtain ⟨-, hname, hslice⟩ := mem_all_iff.mp hp
  refine List.filter_eq_nil_iff.mpr fun f hf ↦ ?_
  obtain ⟨d, hd, hkind, rfl⟩ := mem_unknownKinds_iff.mp hf
  rw [beq_iff_eq]
  intro hspan
  obtain ⟨⟨hvalid, hword⟩, hdslice, -⟩ := Directive.mem_wordy_iff.mp hd
  have hitem := Directive.eq_tagDirective_of_span_eq hvalid hdslice hname hslice hspan
  rw [hitem] at hkind hword
  rw [kind?_tagDirective] at hkind
  cases hrole : p.item.role with
  | opening =>
    rw [if_pos hrole] at hkind
    cases hkind
  | closing =>
    rw [hrole] at hword
    have hnot : Directive.isWord (Text.trim (tagKeyword .closing)) = false := by decide
    exact absurd hword (Bool.eq_false_iff.mp hnot)

/-- A tag declares no flat control, so none is declared again where it stands. -/
theorem filter_redeclarations (hp : p ∈ all role t) :
    (redeclarations t).filter (·.span == p.span) = [] := by
  obtain ⟨-, hname, hslice⟩ := mem_all_iff.mp hp
  refine List.filter_eq_nil_iff.mpr fun f hf ↦ ?_
  obtain ⟨-, w, hw, hfspan⟩ := exists_of_mem_redeclarationsAfter hf
  rw [beq_iff_eq, hfspan]
  intro hspan
  obtain ⟨d, hd, hdw, -⟩ := Declaration.mem_flats_iff_mem_known.mp (mem_flatControls_iff.mp hw)
  obtain ⟨-, hflat, hkind, -, hdspan⟩ := Declaration.of_ofDirective?_eq_some hdw
  obtain ⟨⟨hvalid, -⟩, hdslice, -⟩ := Directive.mem_known_iff.mp hd
  have hitem := Directive.eq_tagDirective_of_span_eq hvalid hdslice hname hslice
    (hdspan.symm.trans hspan)
  rw [hitem, kind?_tagDirective] at hkind
  split at hkind
  · exact hflat (Option.some.inj hkind).symm
  · cases hkind

/-- What is found where a tag stands is decided by the place of the tag. -/
theorem findingsAt_tag (hp : p ∈ all role t) {place : TagPlace} (h : Takes t p place) :
    findingsAt t p.span = (place.findings p.item).map (Diagnostic.mk · p.span) := by
  have hopening : openingTags t = (all .opening t).filterMap (openingDiagnostic? t) := rfl
  have hclosing : closingTags t = (all .closing t).filterMap (closingDiagnostic? t) := rfl
  have hspanOpening : ∀ q f, openingDiagnostic? t q = some f → f.span = q.span :=
    fun _ _ ↦ span_of_openingDiagnostic?
  have hspanClosing : ∀ q f, closingDiagnostic? t q = some f → f.span = q.span :=
    fun _ _ ↦ span_of_closingDiagnostic?
  rw [findingsAt_eq, filter_unknownKinds hp, filter_redeclarations hp, List.append_nil,
    List.append_nil, hopening, hclosing]
  cases role with
  | opening =>
    rw [filter_filterMap_tags hspanOpening hp,
      filter_filterMap_tags_of_ne hspanClosing hp (by decide), List.append_nil,
      openingDiagnostic?_toList hp h]
  | closing =>
    rw [filter_filterMap_tags_of_ne hspanOpening hp (by decide),
      filter_filterMap_tags hspanClosing hp, List.nil_append, closingDiagnostic?_toList hp h]

end Diagnostic

/-- Whether what is found about tags divides the tags of a text: each stands in one place, as a tag
of one block, in the body of one or outside of all; what is found there is what its place says and
nothing else; the tags of the blocks are among the tags of the text; and every finding about a tag
is where one stands. -/
structure TagsDivided (t : Text) : Prop where
  blocks_apart : (ToggleBlock.all t).Pairwise fun b b' ↦ b.span.stop ≤ b'.span.start
  existsUnique_place : ∀ role, ∀ p ∈ ToggleTag.all role t, ∃! place, ToggleTag.Takes t p place
  findings_eq : ∀ role, ∀ p ∈ ToggleTag.all role t, ∀ place, ToggleTag.Takes t p place →
    Diagnostic.findingsAt t p.span = (place.findings p.item).map (Diagnostic.mk · p.span)
  tag_mem_all : ∀ b ∈ ToggleBlock.all t, ∀ role, ToggleBlock.tag b role ∈ ToggleTag.all role t
  exists_tag : ∀ f ∈ Diagnostic.ofText t, f.finding.concernsTag = true →
    ∃ role, ∃ p ∈ ToggleTag.all role t, p.span = f.span

/-- The findings about tags divide the tags of every text. -/
theorem tagsDivided (t : Text) : TagsDivided t where
  blocks_apart := Scan.pairwise_items ToggleBlock.lawful t
  existsUnique_place _ _ hp := ToggleTag.existsUnique_takes hp
  findings_eq _ _ hp _ h := Diagnostic.findingsAt_tag hp h
  tag_mem_all _ hb := ToggleBlock.tag_mem_all hb
  exists_tag f hf hconcerns := by
    rcases (Diagnostic.concernsTag_iff hf).mp hconcerns with h | h
    · obtain ⟨p, hp, -, rfl⟩ := Diagnostic.mem_openingTags_iff.mp h
      exact ⟨.opening, p, hp, rfl⟩
    · obtain ⟨p, hp, -, rfl⟩ := Diagnostic.mem_closingTags_iff.mp h
      exact ⟨.closing, p, hp, rfl⟩

end PromptTemplate
