import PromptTemplate.Proofs.DistinctControls
import PromptTemplate.Proofs.EffectiveDirectives
import PromptTemplate.Proofs.TagFindings

/-!
What becomes of the directives of a text. A directive with a word for its keyword takes effect when
a flat control is placed where it stands or when it opens a block, and it is reported when it shares
a byte with a finding. One of an unknown kind is reported, and an opening tag opens a block or is
reported.

Two sorts of directive can do neither. A directive of the toggle kind that is not spelled as an
opening tag, because blanks surround its keyword or something follows its name, opens nothing, and
it is reported only if a reported tag ends it. A flat directive that runs into a tag of a block is
outside of the block for neither reading of the text, and no finding shares a byte with it. Every
other directive takes effect or is reported (`takesEffect_or_isReported_iff`).
-/

set_option autoImplicit false
set_option relaxedAutoImplicit false

namespace PromptTemplate.Directive

/-- Whether a flat control is placed where a directive stands, or the directive opens a block. -/
def TakesEffect (t : Text) (d : Placed Directive) : Prop :=
  (∃ c ∈ Declaration.distinct (Declaration.ofText t), c.kind ≠ .toggle ∧ d.span ∈ c.spans) ∨
    ∃ b ∈ ToggleBlock.all t, d.span = (ToggleBlock.tag b .opening).span

/-- Whether a directive shares a byte with the place of a finding. -/
def IsReported (t : Text) (d : Placed Directive) : Prop :=
  ∃ f ∈ Diagnostic.ofText t, f.span.overlaps d.span = true

instance (t : Text) (d : Placed Directive) : Decidable (TakesEffect t d) :=
  inferInstanceAs (Decidable (_ ∨ _))

instance (t : Text) (d : Placed Directive) : Decidable (IsReported t d) :=
  inferInstanceAs (Decidable (∃ f ∈ _, _))

/-- Whether a directive is spelled as an opening tag. -/
def IsOpeningTag (d : Directive) : Prop := d = tagDirective .opening d.writtenName

variable {t : Text}

/-- What is shaped like a directive stands wherever its source stands, unless one further left runs
into it. -/
theorem mem_wordy_iff {p : Placed Directive} :
    p ∈ wordy t ↔ (p.item.Valid ∧ isWord p.item.keyword = true) ∧
      p.span.slice? t = some p.item.source ∧
        ∀ q : Placed Directive, q.item.Valid ∧ isWord q.item.keyword = true →
          q.span.slice? t = some q.item.source → q.span.start < p.span.start →
            q.span.stop ≤ p.span.start :=
  (braced fun d ↦ isWord d.keyword).mem_items_iff

/-- The keyword of a kind is a word. -/
theorem isWord_of_kind?_isSome {d : Directive} (h : d.kind?.isSome = true) :
    isWord d.keyword = true := by
  obtain ⟨kind, hkind⟩ := Option.isSome_iff_exists.mp h
  have hkeyword : kind.keyword = d.keyword := by simpa using List.find?_some hkind
  rw [← hkeyword]
  cases kind <;> decide

/-- A directive with a word for its keyword is found as one of a kind if the word names one. -/
theorem mem_known_of_mem_wordy {d : Placed Directive} (hd : d ∈ wordy t)
    (hkind : d.item.kind?.isSome = true) : d ∈ known t := by
  obtain ⟨⟨hvalid, -⟩, hslice, hfirst⟩ := mem_wordy_iff.mp hd
  exact mem_known_iff.mpr ⟨⟨hvalid, hkind⟩, hslice, fun q hq ↦
    hfirst q ⟨hq.1, isWord_of_kind?_isSome hq.2⟩⟩

/-! ### Taking effect -/

/-- Flat controls are placed where flat directives stand. -/
theorem exists_mem_spans_distinct_iff {s : Span} :
    (∃ c ∈ Declaration.distinct (Declaration.ofText t), c.kind ≠ .toggle ∧ s ∈ c.spans) ↔
      ∃ w ∈ Declaration.flats t, w.span = s := by
  constructor
  · rintro ⟨c, hc, hkind, hs⟩
    obtain ⟨w, hw, hkey, rfl⟩ := (Declaration.mem_spans_distinct_ofText hc).mp hs
    have hwkind : w.kind = c.kind := congrArg Prod.fst hkey
    exact ⟨w, Declaration.mem_flats_of_mem_written hw (hwkind ▸ hkind), rfl⟩
  · rintro ⟨w, hw, rfl⟩
    have hwritten : w ∈ Declaration.written t := List.mem_append_right _ hw
    obtain ⟨c, hc, hkey⟩ := Declaration.exists_mem_distinct_ofText hwritten
    have hckind : c.kind = w.kind := congrArg Prod.fst hkey
    exact ⟨c, hc, hckind ▸ Declaration.isFlat_of_mem_flats hw,
      (Declaration.mem_spans_distinct_ofText hc).mpr ⟨w, hwritten, hkey.symm, rfl⟩⟩

/-- Directives of some kind that stand at the same place are the same. -/
theorem eq_of_mem_known_of_span_eq {p q : Placed Directive} (hp : p ∈ known t) (hq : q ∈ known t)
    (h : p.span = q.span) : p = q := by
  obtain ⟨hpaccepts, hpslice, -⟩ := mem_known_iff.mp hp
  obtain ⟨hqaccepts, hqslice, -⟩ := mem_known_iff.mp hq
  exact (braced (·.kind?.isSome)).eq_of_span_eq hpaccepts hqaccepts hpslice hqslice h

/-- A directive that stands where a block opens is the opening tag. -/
theorem eq_tagDirective_of_opens {d : Placed Directive} (hd : d ∈ known t) {b : Placed ToggleBlock}
    (hb : b ∈ ToggleBlock.all t) (h : d.span = (ToggleBlock.tag b .opening).span) :
    d.item = tagDirective .opening b.item.writtenName := by
  obtain ⟨⟨hvalid, -⟩, hslice, -⟩ := mem_known_iff.mp hd
  obtain ⟨-, hname, htag⟩ := ToggleTag.mem_all_iff.mp (ToggleBlock.tag_mem_all hb .opening)
  exact eq_tagDirective_of_span_eq hvalid hslice hname htag h

/-- A flat directive takes effect unless it runs into a tag of a block. -/
theorem takesEffect_iff_of_flat {d : Placed Directive} (hd : d ∈ known t) {kind : Kind}
    (hkind : d.item.kind? = some kind) (hflat : kind ≠ .toggle) :
    TakesEffect t d ↔ ¬ ToggleBlock.RunsIntoTag t d.span := by
  rw [TakesEffect, exists_mem_spans_distinct_iff]
  constructor
  · rintro (⟨w, hw, hspan⟩ | ⟨b, hb, hspan⟩)
    · obtain ⟨p, hp, hpw, hruns⟩ := Declaration.mem_flats_iff_mem_known.mp hw
      rwa [← hspan, (Declaration.of_ofDirective?_eq_some hpw).2.2.2.2]
    · rw [eq_tagDirective_of_opens hd hb hspan, kind?_tagDirective, if_pos rfl] at hkind
      exact absurd (Option.some.inj hkind).symm hflat
  · intro hruns
    obtain ⟨w, hw⟩ := Declaration.exists_ofDirective?_eq_some hkind hflat
    exact Or.inl ⟨w, Declaration.mem_flats_iff_mem_known.mpr ⟨d, hd, hw, hruns⟩,
      (Declaration.of_ofDirective?_eq_some hw).2.2.2.2⟩

/-- A directive of the toggle kind takes effect if it is the opening tag of a block. -/
theorem takesEffect_iff_of_toggle {d : Placed Directive} (hd : d ∈ known t)
    (hkind : d.item.kind? = some .toggle) :
    TakesEffect t d ↔ ∃ b ∈ ToggleBlock.all t, d.span = (ToggleBlock.tag b .opening).span := by
  rw [TakesEffect, exists_mem_spans_distinct_iff, or_iff_right]
  rintro ⟨w, hw, hspan⟩
  obtain ⟨p, hp, hpw, -⟩ := Declaration.mem_flats_iff_mem_known.mp hw
  obtain ⟨-, hflat, hpkind, -, hpspan⟩ := Declaration.of_ofDirective?_eq_some hpw
  rw [eq_of_mem_known_of_span_eq hp hd (hpspan.symm.trans hspan), hkind] at hpkind
  exact hflat (Option.some.inj hpkind).symm

/-! ### Being reported -/

theorem isReported_of_span_eq {d : Placed Directive} (hd : d ∈ wordy t) {f : Diagnostic}
    (hf : f ∈ Diagnostic.ofText t) (h : f.span = d.span) : IsReported t d := by
  obtain ⟨haccepts, hslice, -⟩ := mem_wordy_iff.mp hd
  have hlt := (braced fun d ↦ isWord d.keyword).start_lt_stop haccepts hslice
  refine ⟨f, hf, ?_⟩
  rw [h, Span.overlaps, Bool.and_self, decide_eq_true_eq]
  exact hlt

/-- A directive of no kind is reported. -/
theorem isReported_of_kind?_eq_none {d : Placed Directive} (hd : d ∈ wordy t)
    (hkind : d.item.kind? = none) : IsReported t d := by
  have hmem := Diagnostic.mem_unknownKinds_iff.mpr ⟨d, hd, hkind, rfl⟩
  exact isReported_of_span_eq hd (Diagnostic.mem_ofText_iff.mpr (Or.inr (Or.inr (Or.inl hmem)))) rfl

/-- An opening tag opens a block or is reported. -/
theorem takesEffect_or_isReported_of_isOpeningTag {d : Placed Directive} (hd : d ∈ wordy t)
    (htag : IsOpeningTag d.item) : TakesEffect t d ∨ IsReported t d := by
  obtain ⟨⟨hvalid, -⟩, hslice, -⟩ := mem_wordy_iff.mp hd
  have hmem : ⟨⟨.opening, d.item.writtenName⟩, d.span⟩ ∈ ToggleTag.all .opening t := by
    refine ToggleTag.mem_all_iff.mpr ⟨rfl, hvalid.name_isName, ?_⟩
    rw [hslice, ← source_tagDirective]
    exact congrArg (fun d ↦ some (source d)) htag
  by_cases hopens : ∃ b ∈ ToggleBlock.all t, d.span = (ToggleBlock.tag b .opening).span
  · exact Or.inl (Or.inr hopens)
  · obtain ⟨f, hf, hspan⟩ := Diagnostic.exists_mem_openingTags_iff.mpr ⟨_, hmem,
      fun b hb heq ↦ hopens ⟨b, hb, congrArg Placed.span heq⟩, rfl⟩
    exact Or.inr (isReported_of_span_eq hd (Diagnostic.mem_ofText_iff.mpr (Or.inl hf)) hspan)

/-- A tag that shares a byte with what runs into a tag of a block is that tag. The directive ends
with both of them. -/
theorem eq_tag_of_runsInto {d : Placed Directive} (hd : d ∈ wordy t) {b : Placed ToggleBlock}
    (hb : b ∈ ToggleBlock.all t) {role role' : TagRole} {p : Placed ToggleTag}
    (hruns : d.span.RunsInto (ToggleBlock.tag b role').span) (hp : p ∈ ToggleTag.all role t)
    (hmeet : ¬ d.span.Apart p.span) : p = ToggleBlock.tag b role := by
  obtain ⟨⟨hvalid, -⟩, hslice, -⟩ := mem_wordy_iff.mp hd
  obtain ⟨hrole, hname, hpslice⟩ := ToggleTag.mem_all_iff.mp hp
  have htag := ToggleBlock.tag_mem_all hb role'
  have hwithin := ToggleBlock.tag_within hb role'
  have hlt := (ToggleTag.braced role).start_lt_stop ⟨hrole, hname⟩ hpslice
  have hstop := ToggleTag.stop_eq_of_not_apart hname hpslice (isBraced_source hvalid)
    (colon_mem_source _) hslice hmeet
  have hends := hruns.2
  refine ToggleBlock.eq_tag_of_span_eq hb hp (ToggleTag.span_eq_of_not_apart hp htag ?_)
  intro hapart
  unfold Span.Apart at hapart
  omega

/-- A flat directive that runs into a tag of a block is not reported. -/
theorem not_isReported_of_runsIntoTag {d : Placed Directive} (hd : d ∈ wordy t) {kind : Kind}
    (hkind : d.item.kind? = some kind) (hruns : ToggleBlock.RunsIntoTag t d.span) :
    ¬ IsReported t d := by
  rintro ⟨f, hf, hoverlaps⟩
  have hmeet : ¬ f.span.Apart d.span := by
    rw [Span.apart_iff_overlaps_eq_false, hoverlaps]
    exact Bool.noConfusion
  have hknown := mem_known_of_mem_wordy hd (hkind ▸ rfl)
  obtain ⟨b, hb, role, hinto⟩ := hruns
  rcases Diagnostic.mem_ofText_iff.mp hf with hf | hf | hf | hf
  · obtain ⟨p, hp, hnone, hspan⟩ := Diagnostic.exists_mem_openingTags_iff.mp ⟨f, hf, rfl⟩
    rw [← hspan] at hmeet
    exact hnone b hb (eq_tag_of_runsInto hd hb hinto hp fun h ↦ hmeet h.symm)
  · obtain ⟨p, hp, hnone, hspan⟩ := Diagnostic.exists_mem_closingTags_iff.mp ⟨f, hf, rfl⟩
    rw [← hspan] at hmeet
    exact hnone b hb (Or.inl (eq_tag_of_runsInto hd hb hinto hp fun h ↦ hmeet h.symm))
  · obtain ⟨q, hq, hnone, rfl⟩ := Diagnostic.mem_unknownKinds_iff.mp hf
    rcases Scan.eq_or_apart_of_mem_items (lawful.filter _) t hq hd with rfl | hapart
    · rw [hkind] at hnone
      cases hnone
    · exact hmeet hapart
  · obtain ⟨-, w, hw, hspan⟩ := Diagnostic.exists_of_mem_redeclarationsAfter hf
    obtain ⟨p, hp, hpw, hnot⟩ :=
      Declaration.mem_flats_iff_mem_known.mp (Declaration.mem_inOrder.mp hw)
    rw [hspan, (Declaration.of_ofDirective?_eq_some hpw).2.2.2.2] at hmeet
    rcases Scan.eq_or_apart_of_mem_items lawful_known t hp hknown with rfl | hapart
    · exact hnot ⟨b, hb, role, hinto⟩
    · exact hmeet hapart

/-! ### Every directive -/

/-- A directive takes effect or is reported, unless it is of the toggle kind, no opening tag and not
reported, or it is flat and runs into a tag of a block. -/
theorem takesEffect_or_isReported_iff {d : Placed Directive} (hd : d ∈ wordy t) :
    TakesEffect t d ∨ IsReported t d ↔
      (d.item.kind? = some .toggle → IsOpeningTag d.item ∨ IsReported t d) ∧
      ∀ kind, d.item.kind? = some kind → kind ≠ .toggle → ¬ ToggleBlock.RunsIntoTag t d.span := by
  have hknown : ∀ {kind}, d.item.kind? = some kind → d ∈ known t := fun hkind ↦
    mem_known_of_mem_wordy hd (hkind ▸ rfl)
  constructor
  · rintro (heffect | hreported)
    · refine ⟨fun hkind ↦ Or.inl ?_, fun kind hkind hflat ↦
        (takesEffect_iff_of_flat (hknown hkind) hkind hflat).mp heffect⟩
      obtain ⟨b, hb, hspan⟩ := (takesEffect_iff_of_toggle (hknown hkind) hkind).mp heffect
      have hitem := eq_tagDirective_of_opens (hknown hkind) hb hspan
      rw [IsOpeningTag, hitem]
      rfl
    · exact ⟨fun _ ↦ Or.inr hreported, fun kind hkind _ hruns ↦
        not_isReported_of_runsIntoTag hd hkind hruns hreported⟩
  · rintro ⟨htoggle, hflat⟩
    cases hkind : d.item.kind? with
    | none => exact Or.inr (isReported_of_kind?_eq_none hd hkind)
    | some kind =>
      by_cases hiskind : kind = .toggle
      · rcases htoggle (hiskind ▸ hkind) with htag | hreported
        · exact takesEffect_or_isReported_of_isOpeningTag hd htag
        · exact Or.inr hreported
      · exact Or.inl ((takesEffect_iff_of_flat (hknown hkind) hkind hiskind).mpr
          (hflat kind hkind hiskind))

/-- A control whose default runs into the opening tag of a block. -/
def controlIntoTag : Text := openMark ++ "text:A:".toList ++ ToggleBlock.source ⟨"T".toList, []⟩

theorem takesEffect_or_isReported_iff_controlIntoTag :
    ∃ d ∈ wordy controlIntoTag,
      TakesEffect controlIntoTag d ∨ IsReported controlIntoTag d ↔
        (d.item.kind? = some .toggle → IsOpeningTag d.item ∨ IsReported controlIntoTag d) ∧
        ∀ kind, d.item.kind? = some kind → kind ≠ .toggle →
          ¬ ToggleBlock.RunsIntoTag controlIntoTag d.span :=
  ⟨⟨⟨"text".toList, "A".toList, some (openMark ++ "toggle:T".toList)⟩, ⟨0, 21⟩⟩, by decide,
    takesEffect_or_isReported_iff (by decide)⟩

/-- What is written behind the name keeps this directive from opening anything, and no tag in it is
reported. -/
theorem neither_of_toggle_with_rest :
    ∃ d ∈ wordy "{{toggle:T:x}}".toList,
      ¬ (TakesEffect "{{toggle:T:x}}".toList d ∨ IsReported "{{toggle:T:x}}".toList d) := by
  decide

end PromptTemplate.Directive
