import PromptTemplate.Proofs.BlockTags
import PromptTemplate.Proofs.StableSorting
import PromptTemplate.Proofs.WrittenDeclarations

/-!
Which directives of a text declare a control. A text is read twice for its flat controls: once as a
whole, for those that share no byte with a block, and once body by body. The directives in a body
are those of the whole text that lie in it (`mem_directivesInside_iff`), and no directive leaves a
block that it starts in, so the two readings agree about each block (`scansAgree_of_mem_all`). Both
together find all directives of the text but those that run into a tag of a block: they end with the
tag, and are neither outside of the block nor in its body (`mem_flats_iff_mem_known`).
-/

set_option autoImplicit false
set_option relaxedAutoImplicit false

namespace PromptTemplate

namespace Directive

variable {t : Text}

/-- A directive of a kind is found wherever its source stands, unless one further left runs into
it. -/
theorem mem_known_iff {p : Placed Directive} :
    p ∈ known t ↔ (p.item.Valid ∧ p.item.kind?.isSome = true) ∧
      p.span.slice? t = some p.item.source ∧
        ∀ q : Placed Directive, q.item.Valid ∧ q.item.kind?.isSome = true →
          q.span.slice? t = some q.item.source → q.span.start < p.span.start →
            q.span.stop ≤ p.span.start :=
  (braced (·.kind?.isSome)).mem_items_iff

theorem slice?_of_mem_known {p : Placed Directive} (hp : p ∈ known t) :
    p.span.slice? t = some p.item.source := (mem_known_iff.mp hp).2.1

theorem start_lt_stop_of_mem_known {p : Placed Directive} (hp : p ∈ known t) :
    p.span.start < p.span.stop :=
  (Scan.fits_of_mem_items lawful_known t hp).start_lt_stop

/-- What stands where a tag stands is the directive that the tag can be read as. -/
theorem eq_tagDirective_of_span_eq {p : Placed Directive} {tag : Placed ToggleTag}
    (hp : p.item.Valid) (hpslice : p.span.slice? t = some p.item.source)
    (hname : IsName tag.item.writtenName) (htag : tag.span.slice? t = some tag.item.source)
    (h : p.span = tag.span) : p.item = tagDirective tag.item.role tag.item.writtenName := by
  rw [h, htag, Option.some.injEq] at hpslice
  refine source_injective hp (valid_tagDirective _ hname) ?_
  rw [source_tagDirective]
  exact hpslice.symm

end Directive

namespace Declaration

variable {t : Text}

section Inside

variable {b : Placed ToggleBlock} (hb : b ∈ ToggleBlock.all t)
include hb

/-- What reaches from the left into the body of a block stops where the opening tag stops. -/
theorem stop_eq_of_start_lt_body {m : Text} {s : Span} (hm : IsBraced m) (hcolon : ':' ∈ m)
    (hs : s.slice? t = some m) (hstart : s.start < (ToggleBlock.bodySpan b).start)
    (hstop : b.span.start < s.stop) : s.stop = (ToggleBlock.bodySpan b).start := by
  obtain ⟨-, hname, htag⟩ := ToggleTag.mem_all_iff.mp (ToggleBlock.tag_mem_all hb .opening)
  refine ToggleTag.stop_eq_of_not_apart hname htag hm hcolon hs ?_
  rw [Span.Apart, not_or, Nat.not_le, Nat.not_le]
  exact ⟨hstop, hstart⟩

/-- The directives in a body are directives of the whole text. What runs into one of them starts in
the body as well, since the opening tag is in between. -/
theorem mem_known_of_mem_directivesInside {p : Placed Directive} (hp : p ∈ directivesInside b) :
    p ∈ Directive.known t := by
  obtain ⟨r, hr, rfl⟩ := List.mem_map.mp hp
  obtain ⟨haccepts, hslice, hfirst⟩ := Directive.mem_known_iff.mp hr
  have hbody := ToggleBlock.bodySpan_slice? hb
  have hwithin := ToggleBlock.bodySpan_within hb
  have hpos := Directive.start_lt_stop_of_mem_known hr
  obtain ⟨hshift, hstart, hstop⟩ := Span.slice?_shift hbody hslice
  refine Directive.mem_known_iff.mpr ⟨haccepts, hshift, fun q hq hqslice hlt ↦ ?_⟩
  by_contra hover
  have hbraced := Directive.isBraced_source hq.1
  obtain ⟨hends, -⟩ := hbraced.suffix_of_start_mem (Directive.isBraced_source haccepts.1) hqslice
    hshift (Nat.le_of_lt hlt) (Nat.not_le.mp hover)
  dsimp only [Span.shift] at hstart hstop hends hlt hover
  rcases Nat.lt_or_ge q.span.start (ToggleBlock.bodySpan b).start with hleft | hright
  · have hqstop := stop_eq_of_start_lt_body hb hbraced (Directive.colon_mem_source _) hqslice hleft
      (by omega)
    omega
  · obtain ⟨r', hr'⟩ := Span.exists_shift_eq hright (by omega)
    rw [← hr'] at hqslice hends hlt hover
    have hqbody := Span.slice?_of_shift hbody hqslice (by omega)
    have hle := hfirst ⟨q.item, r'⟩ hq hqbody (Nat.lt_of_add_lt_add_right hlt)
    exact hover (Nat.add_le_add_right hle _)

/-- The directives of the whole text that lie in a body are directives in it. -/
theorem mem_directivesInside_of_mem_known {p : Placed Directive} (hp : p ∈ Directive.known t)
    (hwithin : (ToggleBlock.bodySpan b).contains p.span = true) : p ∈ directivesInside b := by
  obtain ⟨haccepts, hslice, hfirst⟩ := Directive.mem_known_iff.mp hp
  have hpos := Directive.start_lt_stop_of_mem_known hp
  have hbody := ToggleBlock.bodySpan_slice? hb
  rw [Span.contains, Bool.and_eq_true, decide_eq_true_eq, decide_eq_true_eq] at hwithin
  obtain ⟨r, hr⟩ := Span.exists_shift_eq hwithin.1 (by omega)
  refine List.mem_map.mpr ⟨⟨p.item, r⟩, ?_, congrArg (Placed.mk p.item) hr⟩
  rw [← hr] at hslice hfirst hwithin
  refine Directive.mem_known_iff.mpr ⟨haccepts, Span.slice?_of_shift hbody hslice hwithin.2, ?_⟩
  intro q hq hqslice hlt
  obtain ⟨hshift, -, -⟩ := Span.slice?_shift hbody hqslice
  have hle := hfirst ⟨q.item, q.span.shift (ToggleBlock.bodySpan b).start⟩ hq hshift
    (Nat.add_lt_add_right hlt _)
  exact Nat.le_of_add_le_add_right hle

/-- The directives in a body are those of the whole text that lie in it. -/
theorem mem_directivesInside_iff {p : Placed Directive} : p ∈ directivesInside b ↔
    p ∈ Directive.known t ∧ (ToggleBlock.bodySpan b).contains p.span = true := by
  refine ⟨fun hp ↦ ⟨mem_known_of_mem_directivesInside hb hp, ?_⟩,
    fun hp ↦ mem_directivesInside_of_mem_known hb hp.1 hp.2⟩
  obtain ⟨r, hr, rfl⟩ := List.mem_map.mp hp
  obtain ⟨-, hstart, hstop⟩ := Span.slice?_shift (ToggleBlock.bodySpan_slice? hb)
    (Directive.slice?_of_mem_known hr)
  rw [Span.contains, Bool.and_eq_true, decide_eq_true_eq, decide_eq_true_eq]
  exact ⟨hstart, hstop⟩

/-- The directives of the whole text that lie in a body are, in their order, those in it. -/
theorem filter_known_eq_directivesInside :
    (Directive.known t).filter (fun p ↦ (ToggleBlock.bodySpan b).contains p.span) =
      directivesInside b := by
  have hbody := Scan.pairwise_start_items Directive.lawful_known b.item.body
  refine eq_of_ascending (·.span.start)
    ((Scan.pairwise_start_items Directive.lawful_known t).filter _) ?_ fun p ↦ ?_
  · exact List.pairwise_map.mpr (hbody.imp fun hlt ↦ Nat.add_lt_add_right hlt _)
  · rw [List.mem_filter, mem_directivesInside_iff hb]

/-- What starts in a block stops in it: it lies in the body, is a tag or runs into one. -/
theorem stop_le_of_start_mem_block {p : Placed Directive} (hp : p ∈ Directive.known t)
    (hstart : b.span.start ≤ p.span.start) (hlt : p.span.start < b.span.stop) :
    p.span.stop ≤ b.span.stop := by
  obtain ⟨⟨hvalid, -⟩, hslice, -⟩ := Directive.mem_known_iff.mp hp
  have hpos := Directive.start_lt_stop_of_mem_known hp
  have hplacement := ToggleBlock.placement hb (Directive.isBraced_source hvalid)
    (Directive.colon_mem_source _) hslice
  cases hplacement with
  | apart hapart =>
    unfold Span.Apart at hapart
    omega
  | within hwithin =>
    have hbody := ToggleBlock.bodySpan_within hb
    rw [Span.contains, Bool.and_eq_true, decide_eq_true_eq, decide_eq_true_eq] at hwithin
    omega
  | isTag role hspan =>
    rw [hspan]
    exact (ToggleBlock.tag_within hb role).2.2
  | runsInto role hruns =>
    rw [hruns.2]
    exact (ToggleBlock.tag_within hb role).2.2

/-- A directive in a body ends before the closing tag, so it runs into no tag. -/
theorem not_runsIntoTag_of_mem_directivesInside {p : Placed Directive}
    (hp : p ∈ directivesInside b) : ¬ ToggleBlock.RunsIntoTag t p.span := by
  rintro ⟨b', hb', role, hstart, hstop⟩
  have hwithin := ((mem_directivesInside_iff hb).mp hp).2
  rw [Span.contains, Bool.and_eq_true, decide_eq_true_eq, decide_eq_true_eq] at hwithin
  have hbody := ToggleBlock.bodySpan_within hb
  have htag := ToggleBlock.tag_within hb' role
  rcases Scan.eq_or_apart_of_mem_items ToggleBlock.lawful t hb hb' with rfl | hapart
  · cases role with
    | opening =>
      dsimp only [ToggleBlock.tag] at hstart
      omega
    | closing =>
      dsimp only [ToggleBlock.tag] at hstop
      omega
  · unfold Span.Apart at hapart
    omega

end Inside

/-- Whether reading a whole text and reading the body of a block in it find the same directives:
none that starts in the block leaves it, and those that lie in the body are those of the body alone,
part by part and in their order, further right. -/
structure ScansAgree (t : Text) (b : Placed ToggleBlock) : Prop where
  stop_le : ∀ p ∈ Directive.known t, b.span.start ≤ p.span.start → p.span.start < b.span.stop →
    p.span.stop ≤ b.span.stop
  filter_eq : (Directive.known t).filter (fun p ↦ (ToggleBlock.bodySpan b).contains p.span) =
    (Directive.known b.item.body).map fun p ↦
      { p with span := p.span.shift (ToggleBlock.bodySpan b).start }

/-- Reading a text finds in the body of a block what reading the body finds. -/
theorem scansAgree_of_mem_all {b : Placed ToggleBlock} (hb : b ∈ ToggleBlock.all t) :
    ScansAgree t b where
  stop_le _ hp := stop_le_of_start_mem_block hb hp
  filter_eq := filter_known_eq_directivesInside hb

/-- A block with a control in its body, one that runs into its opening tag and one that runs into
its closing tag. -/
def controlsIntoTags : Text := openMark ++ "text:A:".toList ++ ToggleBlock.source
  ⟨"T".toList, "{{text:B}}".toList ++ openMark ++ "text:C:".toList⟩

theorem scansAgree_of_mem_all_controlsIntoTags :
    ∃ b ∈ ToggleBlock.all controlsIntoTags, ScansAgree controlsIntoTags b :=
  ⟨⟨⟨"T".toList, "{{text:B}}".toList ++ openMark ++ "text:C:".toList⟩, ⟨9, 53⟩⟩, by decide,
    scansAgree_of_mem_all (by decide)⟩

/-- A directive outside of the blocks shares no byte with a tag of a block. -/
theorem not_runsIntoTag_of_mem_directivesOutside {p : Placed Directive}
    (hp : p ∈ directivesOutside t) : ¬ ToggleBlock.RunsIntoTag t p.span := by
  rintro ⟨b, hb, role, hstart, hstop⟩
  have hnone := List.of_mem_filter hp
  rw [Bool.not_eq_true', List.any_eq_false] at hnone
  have hapart := Span.apart_iff_overlaps_eq_false.mpr (Bool.eq_false_iff.mpr (hnone b hb))
  have htag := ToggleBlock.tag_within hb role
  unfold Span.Apart at hapart
  omega

/-- A flat directive is outside of a block or lies in its body unless it runs into a tag of it. Read
as a directive, an opening tag is no flat one and a closing tag is of no kind. -/
theorem apart_or_within_of_not_runsIntoTag {b : Placed ToggleBlock} (hb : b ∈ ToggleBlock.all t)
    {p : Placed Directive} (hp : p ∈ Directive.known t) (hkind : p.item.kind? ≠ some .toggle)
    (hruns : ¬ ToggleBlock.RunsIntoTag t p.span) :
    p.span.Apart b.span ∨ (ToggleBlock.bodySpan b).contains p.span = true := by
  obtain ⟨⟨hvalid, hknown⟩, hslice, -⟩ := Directive.mem_known_iff.mp hp
  have hplacement := ToggleBlock.placement hb (Directive.isBraced_source hvalid)
    (Directive.colon_mem_source _) hslice
  cases hplacement with
  | apart hapart => exact Or.inl hapart
  | within hwithin => exact Or.inr hwithin
  | runsInto role h => exact absurd ⟨b, hb, role, h⟩ hruns
  | isTag role hspan =>
    obtain ⟨-, hname, htag⟩ := ToggleTag.mem_all_iff.mp (ToggleBlock.tag_mem_all hb role)
    have hitem := Directive.eq_tagDirective_of_span_eq hvalid hslice hname htag hspan
    rw [hitem, kind?_tagDirective] at hknown hkind
    split at hknown
    · rename_i hrole
      rw [if_pos hrole] at hkind
      exact absurd rfl hkind
    · cases hknown

/-- The flat controls of a text are declared by the directives of the whole text that run into no
tag of a block. -/
theorem mem_flats_iff_mem_known {w : Declaration} : w ∈ flats t ↔
    ∃ p ∈ Directive.known t, ofDirective? p = some w ∧ ¬ ToggleBlock.RunsIntoTag t p.span := by
  rw [mem_flats_iff]
  constructor
  · rintro (hw | ⟨b, hb, hw⟩)
    · obtain ⟨p, hp, hpw⟩ := List.mem_filterMap.mp hw
      exact ⟨p, List.mem_of_mem_filter hp, hpw, not_runsIntoTag_of_mem_directivesOutside hp⟩
    · obtain ⟨p, hp, hpw⟩ := List.mem_filterMap.mp hw
      exact ⟨p, ((mem_directivesInside_iff hb).mp hp).1, hpw,
        not_runsIntoTag_of_mem_directivesInside hb hp⟩
  · rintro ⟨p, hp, hpw, hruns⟩
    have hkind : p.item.kind? ≠ some .toggle := by
      obtain ⟨-, hflat, hkind, -⟩ := of_ofDirective?_eq_some hpw
      rw [hkind]
      exact fun h ↦ hflat (Option.some.inj h)
    by_cases hapart : ∀ b ∈ ToggleBlock.all t, p.span.Apart b.span
    · refine Or.inl (List.mem_filterMap.mpr ⟨p, List.mem_filter.mpr ⟨hp, ?_⟩, hpw⟩)
      rw [Bool.not_eq_true', List.any_eq_false]
      intro b hb
      exact Bool.eq_false_iff.mp (Span.apart_iff_overlaps_eq_false.mp (hapart b hb).symm)
    · push Not at hapart
      obtain ⟨b, hb, hmeet⟩ := hapart
      have hwithin := (apart_or_within_of_not_runsIntoTag hb hp hkind hruns).resolve_left hmeet
      exact Or.inr ⟨b, hb, List.mem_filterMap.mpr
        ⟨p, (mem_directivesInside_iff hb).mpr ⟨hp, hwithin⟩, hpw⟩⟩

end Declaration

end PromptTemplate
