import PromptTemplate.Toggle
import PromptTemplate.Proofs.DirectiveGrammar
import PromptTemplate.Proofs.Offsets

/-!
The grammar of toggle tags and toggle blocks. A tag is read exactly where the source of a tag with a
valid name stands (`ToggleTag.read?_eq_some_iff`), and a block where the source of a block stands
whose body is the shortest one (`ToggleBlock.read?_eq_some_iff`). The body of a placed block lies
inside the block, between its tags, and the span of the block leads back to it
(`ToggleBlock.bodyAt?_of_mem_all`). Cutting out a tag or the body of a span never fails, whatever
the span is (`ToggleTag.readAt_eq`, `ToggleBlock.bodyAt_eq`).
-/

set_option autoImplicit false
set_option relaxedAutoImplicit false

namespace PromptTemplate

/-- What precedes a pattern is read up to the first place where the pattern stands. -/
theorem Text.before?_eq_some_iff {pattern t u : Text} :
    before? pattern t = some u ↔
      u ++ pattern <+: t ∧ ∀ v, v ++ pattern <+: t → u.length ≤ v.length := by
  induction t generalizing u with
  | nil =>
    cases pattern with
    | nil => simp [before?, eq_comm]
    | cons c pattern => simp [before?]
  | cons c t ih =>
    rw [before?]
    split
    · rename_i hpattern
      have hhead := List.isPrefixOf_iff_prefix.mp hpattern
      constructor
      · rintro ⟨⟩
        exact ⟨hhead, fun v _ ↦ Nat.zero_le _⟩
      · rintro ⟨-, hfirst⟩
        have hlength := hfirst [] hhead
        rw [List.eq_nil_of_length_eq_zero (Nat.le_zero.mp hlength)]
    · rename_i hpattern
      have hnot : ¬ pattern <+: c :: t := fun h ↦ hpattern (List.isPrefixOf_iff_prefix.mpr h)
      rw [Option.map_eq_some_iff]
      constructor
      · rintro ⟨u, hu, rfl⟩
        obtain ⟨hhead, hfirst⟩ := ih.mp hu
        refine ⟨List.cons_prefix_cons.mpr ⟨rfl, hhead⟩, fun v hv ↦ ?_⟩
        cases v with
        | nil => exact absurd hv hnot
        | cons d v =>
          have hle := hfirst v (List.cons_prefix_cons.mp hv).2
          simpa using hle
      · rintro ⟨hhead, hfirst⟩
        cases u with
        | nil => exact absurd hhead hnot
        | cons d u =>
          obtain ⟨rfl, htail⟩ := List.cons_prefix_cons.mp hhead
          refine ⟨u, ih.mpr ⟨htail, fun v hv ↦ ?_⟩, rfl⟩
          have hle := hfirst (d :: v) (List.cons_prefix_cons.mpr ⟨rfl, hv⟩)
          simpa using hle

namespace ToggleTag

theorem source_ne_nil (tag : ToggleTag) : tag.source ≠ [] := by
  obtain ⟨role, name⟩ := tag
  cases role <;> simp [source, TagRole.mark, openMark]

/-- A tag is read exactly where its source stands at the head of the text. -/
theorem read?_eq_some_iff {role : TagRole} {t : Text} {tag : ToggleTag} :
    read? role t = some tag ↔
      tag.role = role ∧ IsName tag.writtenName ∧ tag.source <+: t := by
  constructor
  · intro h
    obtain ⟨inner, hinner, h⟩ := Option.bind_eq_some_iff.mp h
    rw [Text.isPrefixOf?_eq_some_iff] at hinner
    dsimp only at h
    split at h
    · simp at h
    · rename_i hsolid
      split at h
      · rename_i hclose
        obtain rfl := Option.some.inj h
        obtain ⟨post, hpost⟩ := List.isPrefixOf_iff_prefix.mp hclose
        rw [List.isEmpty_iff] at hsolid
        refine ⟨rfl, ⟨fun c ↦ endsName_eq_false_of_mem_takeWhile, hsolid⟩, post, ?_⟩
        rw [source, hinner, List.append_assoc, List.append_assoc, hpost,
          List.takeWhile_append_dropWhile]
      · simp at h
  · obtain ⟨role', written⟩ := tag
    rintro ⟨rfl, hname, post, rfl⟩
    obtain ⟨htake, hdrop⟩ := takeWhile_dropWhile_name (c := '}') hname.plain (by decide)
      ('}' :: post)
    have hsource : source ⟨role', written⟩ ++ post =
        role'.mark ++ (written ++ '}' :: '}' :: post) := by
      simp only [source, closeMark, List.append_assoc, List.cons_append, List.nil_append]
    rw [hsource, read?, Text.isPrefixOf?_eq_some_iff.mpr rfl, Option.bind_some]
    simp only [htake, hdrop, List.isEmpty_iff, hname.trim_ne_nil, closeMark, List.isPrefixOf,
      beq_self_eq_true, Bool.and_self, ↓reduceIte]

/-- The scan for tags of a role is lawful. -/
theorem lawful (role : TagRole) : Scan.Lawful (read? role) source where
  source_isPrefix h := (read?_eq_some_iff.mp h).2.2
  source_ne_nil _ := source_ne_nil _

/-- A tag can be cut out wherever one is looked for, and it is the one at the head of what is
behind the offset. -/
theorem readAt_eq (role : TagRole) (t : Text) (start : Nat) :
    readAt role t start =
      .ok ((Text.splitAt? start t).bind fun parts ↦ read? role parts.2) := by
  unfold readAt
  cases hsplit : Text.splitAt? start t with
  | none => rfl
  | some parts =>
    obtain ⟨front, head⟩ := parts
    obtain ⟨rfl, rfl⟩ := Text.splitAt?_eq_some hsplit
    dsimp only [Option.bind_some]
    unfold read?
    cases hmark : role.mark.isPrefixOf? head with
    | none =>
      have hnot : ¬ role.mark.isPrefixOf head = true := by
        rw [List.isPrefixOf_iff_prefix]
        rintro ⟨behind, rfl⟩
        rw [Text.isPrefixOf?_eq_some_iff.mpr rfl] at hmark
        cases hmark
      rw [if_neg hnot, Option.bind_none]
    | some behind =>
      obtain rfl := Text.isPrefixOf?_eq_some_iff.mp hmark
      have hcut := Text.cut_append (front ++ role.mark) behind
      have hname := Text.cut_append (behind.takeWhile (!endsName ·))
        (behind.dropWhile (!endsName ·))
      rw [Text.width_append, List.append_assoc] at hcut
      rw [List.takeWhile_append_dropWhile] at hname
      rw [if_pos (List.isPrefixOf_iff_prefix.mpr (List.prefix_append _ _)), hcut,
        Option.bind_some]
      simp only [bind, Except.bind, hname]
      cases hrest : behind.dropWhile (!endsName ·) with
      | nil => simp [closeMark]
      | cons c rest =>
        cases closeMark.isPrefixOf (c :: rest) <;> simp

end ToggleTag

/-! ### Tags read as directives -/

/-- What stands in a tag where a directive has its keyword. That of a closing tag names no kind. -/
def tagKeyword : TagRole → Text
  | .opening => Kind.toggle.keyword
  | .closing => '/' :: Kind.toggle.keyword

/-- The directive that a tag can be read as. -/
def tagDirective (role : TagRole) (name : Text) : Directive := ⟨tagKeyword role, name, none⟩

/-- A tag is written like the directive that has its keyword. -/
theorem source_tagDirective (role : TagRole) (name : Text) :
    (tagDirective role name).source = ToggleTag.source ⟨role, name⟩ := by
  cases role <;>
    simp [tagDirective, tagKeyword, Directive.source_eq, Directive.restSource, ToggleTag.source,
      TagRole.mark]

theorem isName_tagKeyword (role : TagRole) : IsName (tagKeyword role) := by
  cases role <;> exact isName_of_trim_eq (by decide) (by decide) (List.cons_ne_nil _ _)

theorem valid_tagDirective (role : TagRole) {name : Text} (hname : IsName name) :
    (tagDirective role name).Valid where
  keyword_isName := isName_tagKeyword role
  name_isName := hname
  rest_closed _ hrest := by cases hrest

/-- The directive of an opening tag has a kind, and that of a closing tag has none. -/
theorem kind?_tagDirective (role : TagRole) (name : Text) :
    (tagDirective role name).kind? = if role = .opening then some .toggle else none := by
  have hkinds : ∀ role, Kind.ofKeyword? (Text.trim (tagKeyword role)) =
      if role = .opening then some .toggle else none := by
    intro role
    cases role <;> decide
  exact hkinds role

/-- The source of a tag determines its role and its name. -/
theorem ToggleTag.source_injective {tag tag' : ToggleTag} (hname : IsName tag.writtenName)
    (hname' : IsName tag'.writtenName) (h : tag.source = tag'.source) : tag = tag' := by
  obtain ⟨role, name⟩ := tag
  obtain ⟨role', name'⟩ := tag'
  rw [← source_tagDirective, ← source_tagDirective] at h
  have hparts := Directive.source_injective (valid_tagDirective role hname)
    (valid_tagDirective role' hname') h
  obtain ⟨hkeyword, rfl, -⟩ := Directive.mk.inj hparts
  cases role <;> cases role' <;> first | rfl | cases hkeyword

namespace ToggleBlock

theorem source_eq (b : ToggleBlock) : b.source = b.openingTag ++ (b.body ++ b.closingTag) :=
  List.append_assoc _ _ _

theorem openMark_isPrefix_source (b : ToggleBlock) : openMark <+: b.source := by
  rw [source_eq]
  exact (List.prefix_append _ _).trans (List.prefix_append _ _)

theorem closeMark_isSuffix_closingTag (b : ToggleBlock) : closeMark <:+ b.closingTag :=
  List.suffix_append _ _

/-- A block is read exactly where its source stands at the head of the text and no shorter body
is followed by its closing tag. -/
theorem read?_eq_some_iff {t : Text} {b : ToggleBlock} :
    read? t = some b ↔ IsName b.writtenName ∧ b.source <+: t ∧
      ∀ v, b.openingTag ++ (v ++ b.closingTag) <+: t → b.body.length ≤ v.length := by
  constructor
  · intro h
    obtain ⟨⟨role, name⟩, htag, h⟩ := Option.bind_eq_some_iff.mp h
    obtain ⟨rfl, hname, rest, rfl⟩ := ToggleTag.read?_eq_some_iff.mp htag
    obtain ⟨body, hbody, rfl⟩ := Option.map_eq_some_iff.mp h
    rw [List.drop_left] at hbody
    obtain ⟨hhead, hfirst⟩ := Text.before?_eq_some_iff.mp hbody
    refine ⟨hname, ?_, fun v hv ↦ hfirst v ((List.prefix_append_right_inj _).mp hv)⟩
    rw [source_eq]
    exact (List.prefix_append_right_inj _).mpr hhead
  · obtain ⟨name, body⟩ := b
    rintro ⟨hname, ⟨post, rfl⟩, hfirst⟩
    rw [source_eq, List.append_assoc] at hfirst ⊢
    have htag : ToggleTag.read? .opening
        (openingTag ⟨name, body⟩ ++ (body ++ closingTag ⟨name, body⟩ ++ post)) =
          some ⟨.opening, name⟩ :=
      ToggleTag.read?_eq_some_iff.mpr ⟨rfl, hname, List.prefix_append _ _⟩
    have hbody : Text.before? (closingTag ⟨name, body⟩)
        (body ++ closingTag ⟨name, body⟩ ++ post) = some body :=
      Text.before?_eq_some_iff.mpr ⟨List.prefix_append _ _,
        fun v hv ↦ hfirst v ((List.prefix_append_right_inj _).mpr hv)⟩
    rw [read?, htag, Option.bind_some]
    change Option.map _ (Text.before? (closingTag ⟨name, body⟩) (List.drop
      (openingTag ⟨name, body⟩).length _)) = _
    rw [List.drop_left, hbody, Option.map_some]

/-- The scan for blocks is lawful. -/
theorem lawful : Scan.Lawful read? source where
  source_isPrefix h := (read?_eq_some_iff.mp h).2.1
  source_ne_nil _ := by
    rw [source_eq]
    exact List.append_ne_nil_of_left_ne_nil (ToggleTag.source_ne_nil _) _

/-! ### The body of a placed block -/

section Body

variable {t : Text} {b : Placed ToggleBlock} (hb : b.span.slice? t = some b.item.source)
include hb

/-- The body of a block is where it is said to be. -/
theorem slice?_bodySpan : (bodySpan b).slice? t = some b.item.body := by
  obtain ⟨pre, post, ht, hspan⟩ := Span.slice?_eq_some_iff.mp hb
  refine Span.slice?_eq_some_iff.mpr
    ⟨pre ++ b.item.openingTag, b.item.closingTag ++ post, ?_, ?_⟩
  · rw [ht, source_eq]
    simp only [List.append_assoc]
  · simp only [bodySpan, hspan, Text.width_append]

/-- The tags of a block stand before and behind its body. -/
theorem bodySpan_between : b.span.start < (bodySpan b).start ∧
    (bodySpan b).start ≤ (bodySpan b).stop ∧ (bodySpan b).stop < b.span.stop := by
  obtain ⟨pre, post, -, hspan⟩ := Span.slice?_eq_some_iff.mp hb
  have hopening : 0 < b.item.openingTag.width := Text.width_pos (ToggleTag.source_ne_nil _)
  have hclosing : 0 < b.item.closingTag.width := Text.width_pos (ToggleTag.source_ne_nil _)
  simp only [bodySpan, hspan, source_eq, Text.width_append]
  omega

/-- The body of a block ends where its closing tag begins. -/
theorem bodySpan_stop_eq : (bodySpan b).stop = b.span.stop - b.item.closingTag.width := by
  obtain ⟨pre, post, -, hspan⟩ := Span.slice?_eq_some_iff.mp hb
  simp only [bodySpan, hspan, source_eq, Text.width_append]
  omega

end Body

/-- The body of the block that a span covers, if a block is there. -/
def bodyAt? (t : Text) (s : Span) : Option Span :=
  (s.slice? t).bind fun covered ↦
    (Text.splitAt? s.start t).bind fun cut ↦
      (ToggleTag.read? .opening cut.2).bind fun tag ↦
        let closing := ToggleTag.source ⟨.closing, tag.writtenName⟩
        let start := s.start + tag.source.width
        let stop := s.stop - closing.width
        if closing.isSuffixOf covered && start ≤ stop then some ⟨start, stop⟩ else none

/-- A body can always be looked for: a closing tag that ends the covered text is no longer than
it. -/
theorem bodyAt_eq {arithmetic : Arithmetic} {t : Text} (ht : arithmetic.Holds t.width) (s : Span) :
    bodyAt arithmetic t s = .ok (bodyAt? t s) := by
  unfold bodyAt bodyAt?
  cases hslice : s.slice? t with
  | none => rfl
  | some covered =>
    obtain ⟨pre, post, rfl, rfl⟩ := Span.slice?_eq_some_iff.mp hslice
    have hsplit : Text.splitAt? pre.width (pre ++ covered ++ post) =
        some (pre, covered ++ post) := by
      rw [List.append_assoc, Text.splitAt?_append]
    have hstop : pre.width + covered.width ≤ (pre ++ covered ++ post).width := by
      rw [Text.width_append, Text.width_append]
      omega
    simp only [ToggleTag.readAt_eq, bind, Except.bind, hsplit, Option.bind_some]
    cases ToggleTag.read? .opening (covered ++ post) with
    | none => rfl
    | some tag =>
      dsimp only [Option.bind_some]
      cases hclosing : (ToggleTag.source ⟨.closing, tag.writtenName⟩).isSuffixOf covered with
      | false => simp
      | true =>
        obtain ⟨front, hfront⟩ := List.isSuffixOf_iff_suffix.mp hclosing
        have hle : (ToggleTag.source ⟨.closing, tag.writtenName⟩).width ≤
            pre.width + covered.width := by
          rw [← hfront, Text.width_append]
          omega
        simp only [Arithmetic.minus_eq (ht.mono hstop) hle, Bool.true_and, ↓reduceIte,
          decide_eq_true_eq]

/-- Where differences are checked, no misstep is made in finding a body. -/
theorem bodyAt_checked_eq (t : Text) (s : Span) : bodyAt .checked t s = .ok (bodyAt? t s) :=
  bodyAt_eq (Arithmetic.holds_checked _) s

theorem bodyAt_checked_eq_some_iff {t : Text} {s body : Span} :
    bodyAt .checked t s = .ok (some body) ↔ bodyAt? t s = some body := by
  rw [bodyAt_checked_eq, Except.ok.injEq]

/-- The body of a span is found exactly where the span covers the source of a block. A shorter
body may be followed by the closing tag as well. -/
theorem bodyAt?_eq_some_iff {t : Text} {s body : Span} :
    bodyAt? t s = some body ↔ ∃ b : ToggleBlock,
      IsName b.writtenName ∧ s.slice? t = some b.source ∧ body = bodySpan ⟨b, s⟩ := by
  constructor
  · intro h
    obtain ⟨covered, hcovered, h⟩ := Option.bind_eq_some_iff.mp h
    obtain ⟨⟨front, behind⟩, hcut, h⟩ := Option.bind_eq_some_iff.mp h
    obtain ⟨⟨role, name⟩, htag, h⟩ := Option.bind_eq_some_iff.mp h
    obtain ⟨rfl, hname, rest, hrest⟩ := ToggleTag.read?_eq_some_iff.mp htag
    simp only [Option.ite_none_right_eq_some, Bool.and_eq_true, decide_eq_true_eq,
      List.isSuffixOf_iff_suffix, Option.some.injEq] at h
    obtain ⟨⟨⟨inner, rfl⟩, hle⟩, rfl⟩ := h
    obtain ⟨pre, post, ht, rfl⟩ := Span.slice?_eq_some_iff.mp hcovered
    rw [ht, List.append_assoc, Text.splitAt?_append] at hcut
    obtain ⟨rfl, rfl⟩ := Prod.mk.inj (Option.some.inj hcut)
    rw [List.append_assoc] at hrest
    simp only [Text.width_append] at hle hcovered ⊢
    obtain ⟨m, rfl, -⟩ := Text.exists_append_of_width_le hrest (by omega)
    refine ⟨⟨name, m⟩, hname, hcovered, ?_⟩
    simp only [bodySpan, openingTag, Text.width_append, Span.mk.injEq, true_and]
    omega
  · rintro ⟨b, hname, hslice, rfl⟩
    obtain ⟨pre, post, ht, rfl⟩ := Span.slice?_eq_some_iff.mp hslice
    have hcut : Text.splitAt? pre.width t = some (pre, b.source ++ post) := by
      rw [Text.splitAt?_eq_some_iff, ht]
      exact ⟨List.append_assoc _ _ _, rfl⟩
    have htag : ToggleTag.read? .opening (b.source ++ post) =
        some ⟨.opening, b.writtenName⟩ := by
      refine ToggleTag.read?_eq_some_iff.mpr ⟨rfl, hname, ?_⟩
      rw [source_eq, List.append_assoc]
      exact List.prefix_append _ _
    have hsuffix : b.closingTag.isSuffixOf b.source = true :=
      List.isSuffixOf_iff_suffix.mpr (List.suffix_append _ _)
    have hstop : pre.width + Text.width b.source - b.closingTag.width =
        pre.width + b.openingTag.width + b.body.width :=
      (bodySpan_stop_eq (b := ⟨b, ⟨pre.width, pre.width + b.source.width⟩⟩) hslice).symm
    have hopening : ToggleTag.source ⟨.opening, b.writtenName⟩ = b.openingTag := rfl
    have hclosing : ToggleTag.source ⟨.closing, b.writtenName⟩ = b.closingTag := rfl
    simp only [bodyAt?, hslice, hcut, htag, Option.bind_some, hopening, hclosing, hsuffix, hstop,
      Nat.le_add_right, decide_true, Bool.and_self, ↓reduceIte, bodySpan]

/-- The body of a span, if one is found, is a slice of the text. -/
theorem exists_slice?_of_bodyAt? {t : Text} {s body : Span} (h : bodyAt? t s = some body) :
    ∃ inner, body.slice? t = some inner := by
  obtain ⟨b, -, hslice, rfl⟩ := bodyAt?_eq_some_iff.mp h
  exact ⟨b.body, slice?_bodySpan (b := ⟨b, s⟩) hslice⟩

/-! ### The blocks of a text -/

section All

variable {t : Text} {b : Placed ToggleBlock} (hb : b ∈ all t)
include hb

theorem slice?_of_mem_all : b.span.slice? t = some b.item.source :=
  Scan.slice?_of_mem_items lawful t hb

theorem bodySpan_slice? : (bodySpan b).slice? t = some b.item.body :=
  slice?_bodySpan (slice?_of_mem_all hb)

/-- The body of a block lies strictly inside of it. -/
theorem bodySpan_within : b.span.start < (bodySpan b).start ∧
    (bodySpan b).start ≤ (bodySpan b).stop ∧ (bodySpan b).stop < b.span.stop :=
  bodySpan_between (slice?_of_mem_all hb)

theorem isName_of_mem_all : IsName b.item.writtenName := by
  obtain ⟨pre, post, -, -, hread⟩ := (Scan.run_items lawful t).exists_append_of_mem hb
  exact (read?_eq_some_iff.mp hread).1

/-- The span of a block determines its body. -/
theorem bodyAt?_of_mem_all : bodyAt? t b.span = some (bodySpan b) :=
  bodyAt?_eq_some_iff.mpr ⟨b.item, isName_of_mem_all hb, slice?_of_mem_all hb, rfl⟩

end All

end ToggleBlock

end PromptTemplate
