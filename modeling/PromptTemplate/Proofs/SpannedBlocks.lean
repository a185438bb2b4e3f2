import PromptTemplate.Proofs.LeftmostItems

/-!
Two ways to a body. At an offset a block is read up to the first closing tag of its name
(`ToggleBlock.readAt?`). Of a span it is asked whether it begins with an opening tag and ends with
the closing tag of that name (`ToggleBlock.bodyAt`), which need not be the first one.

So a span that is that of the block which is read where it starts has the body of the block
(`ToggleBlock.ReadsAs`). Besides these, exactly the spans have a body that go on behind the block to
a later closing tag of its name (`ToggleBlock.RunsOn`): closing tags do not overlap, so the later
one stands behind the whole block. Every other span is refused
(`ToggleBlock.acceptsReadAndRunningOn`).
-/

set_option autoImplicit false
set_option relaxedAutoImplicit false

namespace PromptTemplate.ToggleBlock

/-- The block that begins as another one does and goes on behind its closing tag to a later one. -/
def lengthen (b : ToggleBlock) (rest : Text) : ToggleBlock :=
  ⟨b.writtenName, b.body ++ (b.closingTag ++ rest)⟩

/-- A block that goes on has more text before one more closing tag. -/
theorem source_lengthen (b : ToggleBlock) (rest : Text) :
    (b.lengthen rest).source = b.source ++ (rest ++ b.closingTag) := by
  rw [source_eq, source_eq]
  simp only [lengthen, List.append_assoc]
  rfl

/-- The block that is read at an offset of a text. -/
def readAt? (t : Text) (start : Nat) : Option (Placed ToggleBlock) :=
  (Text.splitAt? start t).bind fun cut ↦
    (read? cut.2).map fun b ↦ ⟨b, ⟨start, start + b.source.width⟩⟩

/-- Whether a span is that of the block which is read where it starts, and another one that of the
body of the block. -/
def ReadsAs (t : Text) (s body : Span) : Prop :=
  ∃ k, readAt? t s.start = some k ∧ k.span = s ∧ bodySpan k = body

/-- Whether a span begins with the block which is read where it starts and goes on to a later
closing tag of the same name, and another one is what lies between the two tags. -/
def RunsOn (t : Text) (s body : Span) : Prop :=
  ∃ k rest, readAt? t s.start = some k ∧
    (⟨k.span.stop, s.stop⟩ : Span).slice? t = some (rest ++ k.item.closingTag) ∧
      body = ⟨(bodySpan k).start, s.stop - k.item.closingTag.width⟩

variable {t : Text} {s body : Span}

theorem readAt?_append (pre : Text) {post : Text} {b : ToggleBlock} (h : read? post = some b) :
    readAt? (pre ++ post) pre.width = some ⟨b, ⟨pre.width, pre.width + b.source.width⟩⟩ := by
  rw [readAt?, Text.splitAt?_append, Option.bind_some, h, Option.map_some]

/-- What is read at an offset is a block whose source stands there. -/
theorem of_readAt? {start : Nat} {k : Placed ToggleBlock} (h : readAt? t start = some k) :
    IsName k.item.writtenName ∧ k.span.start = start ∧ k.span.slice? t = some k.item.source := by
  obtain ⟨⟨pre, rest⟩, hcut, hread⟩ := Option.bind_eq_some_iff.mp h
  obtain ⟨rfl, rfl⟩ := Text.splitAt?_eq_some_iff.mp hcut
  obtain ⟨b, hb, rfl⟩ := Option.map_eq_some_iff.mp hread
  obtain ⟨hname, ⟨post, rfl⟩, -⟩ := read?_eq_some_iff.mp hb
  exact ⟨hname, rfl, Span.slice?_eq_some_iff.mpr
    ⟨pre, post, (List.append_assoc _ _ _).symm, rfl⟩⟩

/-- Where the source of a block stands, it is read, or a block is read that it goes on behind. Both
bodies begin behind the opening tag, and a closing tag stands behind each. -/
theorem exists_read?_source (b : ToggleBlock) (hname : IsName b.writtenName) (post : Text) :
    ∃ k, read? (b.source ++ post) = some k ∧ (b = k ∨ ∃ rest, b = k.lengthen rest) := by
  obtain ⟨name, body⟩ := b
  obtain ⟨inner, hread⟩ := exists_read?_eq hname body post
  refine ⟨⟨name, inner⟩, hread, ?_⟩
  obtain ⟨-, ⟨behind, hbehind⟩, hshortest⟩ := read?_eq_some_iff.mp hread
  have hle : inner.length ≤ body.length := by
    refine hshortest body ⟨post, ?_⟩
    rw [← List.append_assoc]
    rfl
  have hsame : inner ++ (closer name ++ behind) = body ++ (closer name ++ post) := by
    have hsources : opener name ++ (inner ++ (closer name ++ behind)) =
        opener name ++ (body ++ (closer name ++ post)) := by
      simp only [source_eq, openingTag_eq, closingTag_eq, List.append_assoc] at hbehind
      exact hbehind
    exact List.append_cancel_left hsources
  obtain ⟨skipped, rfl⟩ := List.prefix_of_prefix_length_le
    (List.prefix_append inner _) (hsame ▸ List.prefix_append body _) hle
  rw [List.append_assoc] at hsame
  have hcloser : IsBraced (ToggleTag.source ⟨.closing, name⟩) := ToggleTag.isBraced_source hname
  rcases hcloser.eq_nil_or_append (List.append_cancel_left hsame) with rfl | ⟨rest, rfl⟩
  · exact Or.inl (by rw [List.append_nil])
  · exact Or.inr ⟨rest, rfl⟩

/-- A span with a body is that of the block read where it starts, or goes on behind it. -/
theorem readsAs_or_runsOn_of_bodyAt? (h : bodyAt? t s = some body) :
    ReadsAs t s body ∨ RunsOn t s body := by
  obtain ⟨b, hname, hslice, rfl⟩ := bodyAt?_eq_some_iff.mp h
  have hbody := bodySpan_stop_eq (b := ⟨b, s⟩) hslice
  obtain ⟨pre, post, rfl, rfl⟩ := Span.slice?_eq_some_iff.mp hslice
  obtain ⟨k, hread, hk⟩ := exists_read?_source b hname post
  have hreadAt := readAt?_append pre hread
  rw [← List.append_assoc] at hreadAt
  rcases hk with rfl | ⟨rest, rfl⟩
  · exact Or.inl ⟨_, hreadAt, rfl, rfl⟩
  · refine Or.inr ⟨_, rest, hreadAt, Span.slice?_eq_some_iff.mpr
      ⟨pre ++ k.source, post, ?_, ?_⟩, congrArg (Span.mk _) hbody⟩
    · rw [source_lengthen]
      simp only [List.append_assoc]
    · simp only [source_lengthen, Text.width_append, Nat.add_assoc]

/-- A block that is read has its body found. -/
theorem bodyAt?_of_readsAs (h : ReadsAs t s body) : bodyAt? t s = some body := by
  obtain ⟨⟨b, span⟩, hread, rfl, rfl⟩ := h
  obtain ⟨hname, -, hslice⟩ := of_readAt? hread
  exact bodyAt?_eq_some_iff.mpr ⟨b, hname, hslice, rfl⟩

/-- A span that runs on behind a block has a body found that goes on as well. -/
theorem bodyAt?_of_runsOn (h : RunsOn t s body) : bodyAt? t s = some body := by
  obtain ⟨⟨b, start, middle⟩, rest, hread, hbehind, rfl⟩ := h
  obtain ⟨first, stop⟩ := s
  obtain ⟨hname, rfl, hslice⟩ := of_readAt? hread
  have hwhole := Span.slice?_append hslice hbehind
  rw [← source_lengthen] at hwhole
  have hbody := bodySpan_stop_eq (b := ⟨b.lengthen rest, ⟨start, stop⟩⟩) hwhole
  exact bodyAt?_eq_some_iff.mpr
    ⟨b.lengthen rest, hname, hwhole, congrArg (Span.mk _) hbody.symm⟩

/-- A block of a text is what is read where it starts. -/
theorem readAt?_of_mem_all {k : Placed ToggleBlock} (hk : k ∈ all t) :
    readAt? t k.span.start = some k := by
  obtain ⟨pre, post, ht, hspan, hread⟩ := (Scan.run_items lawful t).exists_append_of_mem hk
  rw [Nat.zero_add] at hspan
  have hplaced : k = ⟨k.item, ⟨pre.width, pre.width + k.item.source.width⟩⟩ :=
    congrArg (Placed.mk k.item) hspan
  rw [ht, List.append_assoc, hspan, readAt?_append pre hread, ← hplaced]

/-- A span that goes on behind a block is not that of the block. -/
theorem not_runsOn_of_readsAs {other : Span} (h : ReadsAs t s body) : ¬ RunsOn t s other := by
  rintro ⟨k', rest, hread', hbehind, -⟩
  obtain ⟨k, hread, rfl, -⟩ := h
  obtain rfl := Option.some.inj (hread.symm.trans hread')
  obtain ⟨pre, post, -, hspan⟩ := Span.slice?_eq_some_iff.mp hbehind
  obtain ⟨hstart, hstop⟩ := Span.mk.inj hspan
  have hpos : 0 < k.item.closingTag.width := Text.width_pos (ToggleTag.source_ne_nil _)
  rw [Text.width_append] at hstop
  omega

/-- Whether the bodies of the spans of a text are those of the blocks that are read in it, and those
of spans that go on behind such a block. -/
structure AcceptsReadAndRunningOn (t : Text) : Prop where
  /-- The body of a span can always be looked for. -/
  exists_found : ∀ s, ∃ found, bodyAt .checked t s = .ok found
  /-- The spans with a body are those of the blocks read where they start and those that go on
  behind one. -/
  bodyAt_iff : ∀ s body,
    bodyAt .checked t s = .ok (some body) ↔ ReadsAs t s body ∨ RunsOn t s body
  /-- The block read where a span starts agrees with the body of the span, unless the span goes on
  behind the block. -/
  readsAs_iff : ∀ s body,
    ReadsAs t s body ↔ bodyAt .checked t s = .ok (some body) ∧ ¬ RunsOn t s body
  /-- Every block of the text is read where it starts, and its body is that of its span. -/
  readsAs_all : ∀ k ∈ all t,
    readAt? t k.span.start = some k ∧ bodyAt .checked t k.span = .ok (some (bodySpan k))

/-- The spans with a body are those of the blocks read where they start and those that run on behind
one. -/
theorem acceptsReadAndRunningOn (t : Text) : AcceptsReadAndRunningOn t where
  exists_found s := ⟨_, bodyAt_checked_eq t s⟩
  bodyAt_iff _ _ := bodyAt_checked_eq_some_iff.trans
    ⟨readsAs_or_runsOn_of_bodyAt?, fun h ↦ h.elim bodyAt?_of_readsAs bodyAt?_of_runsOn⟩
  readsAs_iff _ _ := by
    rw [bodyAt_checked_eq_some_iff]
    exact ⟨fun h ↦ ⟨bodyAt?_of_readsAs h, not_runsOn_of_readsAs h⟩,
      fun h ↦ (readsAs_or_runsOn_of_bodyAt? h.1).resolve_right h.2⟩
  readsAs_all _ hk :=
    ⟨readAt?_of_mem_all hk, bodyAt_checked_eq_some_iff.mpr (bodyAt?_of_mem_all hk)⟩

/-- A span from an opening tag to the second closing tag behind it has a body, although the block
that is read where it starts ends with the first one. -/
theorem bodyAt_secondClosing :
    bodyAt .checked "{{toggle:A}}one{{/toggle:A}}two{{/toggle:A}}".toList ⟨0, 44⟩ =
        .ok (some ⟨12, 31⟩) ∧
      (readAt? "{{toggle:A}}one{{/toggle:A}}two{{/toggle:A}}".toList 0).map (·.span) =
        some ⟨0, 28⟩ := ⟨rfl, rfl⟩

end PromptTemplate.ToggleBlock
