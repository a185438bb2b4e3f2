import PromptTemplate.Proofs.BracedItems

/-!
Items are found leftmost first. A scan takes an item exactly where its reader reads one and no item
that it took before covers the place (`Scan.mem_items_iff_clear`), so what it lists is determined by
what can be read at each place.

For directives that is the grammar of `{{K:N}}` and `{{K:N:R}}` (`Directive.Writes`): the directives
of a text are all that follow the grammar and start in no earlier one
(`Directive.followsGrammar_known`). For blocks it is an opening tag with the first closing tag of
its name behind it, and what lies between the two is the body
(`ToggleBlock.endsAtFirstClosing_all`).
-/

set_option autoImplicit false
set_option relaxedAutoImplicit false

namespace PromptTemplate

/-! ### Scans -/

namespace Scan

variable {α : Type} {read? : Text → Option α} {source : α → Text}

/-- Whether a byte offset lies inside no item that starts before it. -/
def Clear (found : List (Placed α)) (offset : Nat) : Prop :=
  ∀ q ∈ found, q.span.start < offset → q.span.stop ≤ offset

/-- Two cuts of a text at one offset are the same. -/
theorem eq_of_width_eq {pre rest pre' rest' : Text} (h : pre ++ rest = pre' ++ rest')
    (hwidth : Text.width pre = Text.width pre') : pre = pre' ∧ rest = rest' := by
  have hcut : Text.splitAt? pre.width (pre ++ rest) = some (pre', rest') :=
    Text.splitAt?_eq_some_iff.mpr ⟨h, hwidth.symm⟩
  rw [Text.splitAt?_append, Option.some.injEq] at hcut
  exact Prod.mk.inj hcut

section Items

variable (law : Lawful read? source) {t : Text}
include law

/-- A scan takes an item exactly where it is read and starts in no earlier item. -/
theorem mem_items_iff_clear {p : Placed α} :
    p ∈ items read? source t ↔ Clear (items read? source t) p.span.start ∧
      ∃ pre rest, t = pre ++ rest ∧ read? rest = some p.item ∧
        p.span = ⟨pre.width, pre.width + (source p.item).width⟩ := by
  constructor
  · intro hp
    obtain ⟨pre, post, ht, hspan, hread⟩ := (run_items law t).exists_append_of_mem hp
    rw [Nat.zero_add] at hspan
    refine ⟨fun q hq hlt ↦ ?_, pre, source p.item ++ post, by rw [ht, List.append_assoc], hread,
      hspan⟩
    have hpos := (fits_of_mem_items law t hp).start_lt_stop
    rcases eq_or_apart_of_mem_items law t hq hp with rfl | hbefore | hbehind
    · exact absurd hlt (Nat.lt_irrefl _)
    · exact hbefore
    · omega
  · rintro ⟨hclear, pre, rest, ht, hread, hspan⟩
    obtain ⟨q, hq, hstart, hstop⟩ := (run_items law t).exists_mem_of_read? law ht hread
    rw [Nat.zero_add] at hstart hstop
    have hp : p.span.start = pre.width := by rw [hspan]
    have hsame : q.span.start = pre.width := by
      by_contra hne
      have hle := hclear q hq (by omega)
      omega
    obtain ⟨pre', post', ht', hspan', hread'⟩ := (run_items law t).exists_append_of_mem hq
    rw [Nat.zero_add] at hspan'
    have hwidth : Text.width pre = Text.width pre' := by rw [← hsame, hspan']
    rw [List.append_assoc] at ht'
    obtain ⟨-, rfl⟩ := eq_of_width_eq (ht.symm.trans ht') hwidth
    have hitem : q.item = p.item := Option.some.inj (hread'.symm.trans hread)
    have heq : q = p := by
      refine congrArg₂ Placed.mk hitem ?_
      rw [hspan', hspan, hwidth, hitem]
    exact heq ▸ hq

/-- An item starts at an offset exactly where one is read that starts in no earlier item. -/
theorem exists_mem_start_iff {offset : Nat} :
    (∃ p ∈ items read? source t, p.span.start = offset) ↔
      Clear (items read? source t) offset ∧
        ∃ pre rest, t = pre ++ rest ∧ pre.width = offset ∧ (read? rest).isSome = true := by
  constructor
  · rintro ⟨p, hp, rfl⟩
    obtain ⟨hclear, pre, rest, ht, hread, hspan⟩ := (mem_items_iff_clear law).mp hp
    exact ⟨hclear, pre, rest, ht, by rw [hspan], by rw [hread]; rfl⟩
  · rintro ⟨hclear, pre, rest, ht, rfl, hsome⟩
    obtain ⟨item, hread⟩ := Option.isSome_iff_exists.mp hsome
    exact ⟨⟨item, ⟨pre.width, pre.width + (source item).width⟩⟩,
      (mem_items_iff_clear law).mpr ⟨hclear, pre, rest, ht, hread, rfl⟩, rfl⟩

/-- What is read at the start of an item is the item. -/
theorem read?_of_mem_items {p : Placed α} (hp : p ∈ items read? source t) {pre rest : Text}
    (ht : t = pre ++ rest) (hstart : pre.width = p.span.start) : read? rest = some p.item := by
  obtain ⟨-, pre', rest', ht', hread, hspan⟩ := (mem_items_iff_clear law).mp hp
  rw [hspan] at hstart
  obtain ⟨-, rfl⟩ := eq_of_width_eq (ht.symm.trans ht') hstart
  exact hread

end Items

end Scan

/-- Whether a name can be written between double braces: it holds no colon and no closing brace,
and it is not blank. -/
def CanName (name : Text) : Prop := (':' ∉ name ∧ '}' ∉ name) ∧ Text.trim name ≠ []

/-- The names that are read are the ones that can stand in a tag or a directive. -/
theorem isName_iff {written : Text} : IsName written ↔ CanName written := by
  constructor
  · intro h
    exact ⟨h.not_mem, h.trim_ne_nil⟩
  · rintro ⟨⟨hcolon, hbrace⟩, hsolid⟩
    refine ⟨fun c hc ↦ ?_, hsolid⟩
    rw [endsName, Bool.or_eq_false_iff, beq_eq_false_iff_ne, beq_eq_false_iff_ne]
    exact ⟨ne_of_mem_of_not_mem hc hcolon, ne_of_mem_of_not_mem hc hbrace⟩

/-! ### Directives -/

namespace Directive

/-- The text `{{K:N}}`, or `{{K:N:R}}` if there is a rest. -/
def written (keyword name : Text) : Option Text → Text
  | none => "\x7b\x7b".toList ++ keyword ++ ":".toList ++ name ++ "\x7d\x7d".toList
  | some rest =>
    "\x7b\x7b".toList ++ keyword ++ ":".toList ++ name ++ ":".toList ++ rest ++
      "\x7d\x7d".toList

theorem source_eq_written (keyword name : Text) (rest : Option Text) :
    source ⟨keyword, name, rest⟩ = written keyword name rest := by
  cases rest with
  | none =>
    change openMark ++ keyword ++ ':' :: name ++ [] ++ closeMark =
      openMark ++ keyword ++ [':'] ++ name ++ closeMark
    simp
  | some rest =>
    change openMark ++ keyword ++ ':' :: name ++ ':' :: rest ++ closeMark =
      openMark ++ keyword ++ [':'] ++ name ++ [':'] ++ rest ++ closeMark
    simp

/-- Whether a text is written as a directive, with a keyword that names a kind and a name that is
not blank. -/
structure Writes (m keyword name : Text) (rest : Option Text) : Prop where
  eq_written : m = written keyword name rest
  keyword_plain : ':' ∉ keyword ∧ '}' ∉ keyword
  keyword_mem : Text.trim keyword ∈
    ["text".toList, "select".toList, "slider".toList, "toggle".toList]
  canName : CanName name
  rest_closed : ∀ r, rest = some r → '}' ∉ r

/-- A directive is of a kind exactly if its keyword is one of the four. -/
theorem kind?_isSome_iff (d : Directive) : d.kind?.isSome = true ↔
    d.keyword ∈ ["text".toList, "select".toList, "slider".toList, "toggle".toList] := by
  have hkeywords : Kind.all.map (·.keyword) =
      ["text".toList, "select".toList, "slider".toList, "toggle".toList] := rfl
  rw [kind?, Kind.ofKeyword?, List.find?_isSome, ← hkeywords, List.mem_map]
  simp only [decide_eq_true_eq]

/-- The grammar describes the sources of the directives of some kind. -/
theorem writes_iff {m keyword name : Text} {rest : Option Text} :
    Writes m keyword name rest ↔
      (Valid ⟨keyword, name, rest⟩ ∧ (Directive.mk keyword name rest).kind?.isSome = true) ∧
        m = source ⟨keyword, name, rest⟩ := by
  rw [source_eq_written, kind?_isSome_iff]
  constructor
  · intro h
    have hkeyword : Text.trim keyword ≠ [] := by
      intro hnil
      have hmem := h.keyword_mem
      rw [hnil] at hmem
      exact absurd hmem (by decide)
    exact ⟨⟨⟨isName_iff.mpr ⟨h.keyword_plain, hkeyword⟩, isName_iff.mpr h.canName, h.rest_closed⟩,
      h.keyword_mem⟩, h.eq_written⟩
  · rintro ⟨⟨hvalid, hkind⟩, hm⟩
    exact ⟨hm, hvalid.keyword_isName.not_mem, hkind, isName_iff.mp hvalid.name_isName,
      hvalid.rest_closed⟩

/-- A text follows the grammar in one way only. -/
theorem Writes.unique {m keyword name keyword' name' : Text} {rest rest' : Option Text}
    (h : Writes m keyword name rest) (h' : Writes m keyword' name' rest') :
    keyword = keyword' ∧ name = name' ∧ rest = rest' := by
  obtain ⟨⟨hvalid, -⟩, hm⟩ := writes_iff.mp h
  obtain ⟨⟨hvalid', -⟩, hm'⟩ := writes_iff.mp h'
  exact Directive.mk.inj (source_injective hvalid hvalid' (hm.symm.trans hm'))

/-- Whether directives that were found in a text are those that follow the grammar, the leftmost
first: they are exactly those that start in no earlier one, their parts are those that are written,
and they come in order without sharing a byte. -/
structure FollowsGrammar (t : Text) (found : List (Placed Directive)) : Prop where
  exists_mem_iff : ∀ s : Span, (∃ p ∈ found, p.span = s) ↔ Scan.Clear found s.start ∧
    ∃ m keyword name rest, s.slice? t = some m ∧ Writes m keyword name rest
  parts_eq : ∀ p ∈ found, ∀ m keyword name rest, p.span.slice? t = some m →
    Writes m keyword name rest → p.item.keyword = Text.trim keyword ∧
      p.item.name = Text.trim name ∧ p.item.rest = rest
  start_lt_stop : ∀ p ∈ found, p.span.start < p.span.stop
  pairwise : found.Pairwise fun p q ↦ p.span.stop ≤ q.span.start

/-- The directives of a text are exactly those that follow the grammar, the leftmost first, and a
text follows the grammar in one way only. -/
theorem followsGrammar_known (t : Text) : FollowsGrammar t (known t) ∧
    ∀ m keyword name rest keyword' name' rest', Writes m keyword name rest →
      Writes m keyword' name' rest' → keyword = keyword' ∧ name = name' ∧ rest = rest' := by
  have hwrites : ∀ p ∈ known t, p.span.slice? t = some p.item.source ∧
      Writes p.item.source p.item.writtenKeyword p.item.writtenName p.item.rest := by
    intro p hp
    have haccepts := (braced (·.kind?.isSome)).accepts_of_mem hp
    exact ⟨Scan.slice?_of_mem_items lawful_known t hp, writes_iff.mpr ⟨haccepts, rfl⟩⟩
  refine ⟨⟨fun s ↦ ⟨?_, ?_⟩, ?_, fun p hp ↦ ?_, Scan.pairwise_items lawful_known t⟩,
    fun m keyword name rest keyword' name' rest' ↦ Writes.unique⟩
  · rintro ⟨p, hp, rfl⟩
    obtain ⟨hslice, hp'⟩ := hwrites p hp
    exact ⟨((Scan.mem_items_iff_clear lawful_known).mp hp).1, _, _, _, _, hslice, hp'⟩
  · rintro ⟨hclear, m, keyword, name, rest, hslice, hm⟩
    obtain ⟨haccepts, rfl⟩ := writes_iff.mp hm
    obtain ⟨pre, post, ht, hs⟩ := Span.slice?_eq_some_iff.mp hslice
    have hread := (braced (·.kind?.isSome)).read?_eq_some_iff.mpr
      ⟨haccepts, List.prefix_append (source ⟨keyword, name, rest⟩) post⟩
    refine ⟨⟨⟨keyword, name, rest⟩, s⟩, (Scan.mem_items_iff_clear lawful_known).mpr
      ⟨hclear, pre, source ⟨keyword, name, rest⟩ ++ post, ?_, hread, hs⟩, rfl⟩
    rw [ht, List.append_assoc]
  · intro p hp m keyword name rest hslice hm
    obtain ⟨hslice', hp'⟩ := hwrites p hp
    obtain rfl := Option.some.inj (hslice'.symm.trans hslice)
    obtain ⟨hkeyword, hname, hrest⟩ := hp'.unique hm
    exact ⟨congrArg Text.trim hkeyword, congrArg Text.trim hname, hrest⟩
  · exact (Scan.fits_of_mem_items lawful_known t hp).start_lt_stop

/-- A brace too many in front belongs to no directive. -/
example : (known "\x7b{{text:a}}".toList).map (·.span) = [⟨1, 11⟩] := by decide +kernel

end Directive

/-! ### Blocks -/

/-- A pattern that stands somewhere in a text is found. -/
theorem Text.exists_before?_eq {pattern t v : Text} (h : v ++ pattern <+: t) :
    ∃ u, before? pattern t = some u := by
  induction t generalizing v with
  | nil =>
    obtain ⟨rfl, rfl⟩ := List.append_eq_nil_iff.mp (List.prefix_nil.mp h)
    exact ⟨[], rfl⟩
  | cons c t ih =>
    rw [before?]
    by_cases hhead : pattern.isPrefixOf (c :: t) = true
    · exact ⟨[], if_pos hhead⟩
    · rw [if_neg hhead]
      cases v with
      | nil => exact absurd (List.isPrefixOf_iff_prefix.mpr h) hhead
      | cons d v =>
        obtain ⟨u, hu⟩ := ih (List.cons_prefix_cons.mp h).2
        exact ⟨c :: u, by rw [hu, Option.map_some]⟩

namespace ToggleBlock

/-- The opening tag of a name as it is written. -/
def opener (name : Text) : Text := "\x7b\x7btoggle:".toList ++ name ++ "\x7d\x7d".toList

/-- The closing tag of a name as it is written. -/
def closer (name : Text) : Text := "\x7b\x7b/toggle:".toList ++ name ++ "\x7d\x7d".toList

theorem openingTag_eq (b : ToggleBlock) : b.openingTag = opener b.writtenName := rfl

theorem closingTag_eq (b : ToggleBlock) : b.closingTag = closer b.writtenName := rfl

/-- Where an opening tag stands and its closing tag stands behind it, a block of that name is read.
-/
theorem exists_read?_eq {name : Text} (hname : IsName name) (between post : Text) :
    ∃ body, read? (opener name ++ between ++ closer name ++ post) = some ⟨name, body⟩ := by
  have hbehind : between ++ closer name <+: between ++ closer name ++ post :=
    List.prefix_append _ _
  obtain ⟨body, hbody⟩ := Text.exists_before?_eq hbehind
  obtain ⟨hhead, hfirst⟩ := Text.before?_eq_some_iff.mp hbody
  refine ⟨body, read?_eq_some_iff.mpr ⟨hname, ?_, fun v hv ↦ ?_⟩⟩
  · rw [source_eq, List.append_assoc, List.append_assoc, ← List.append_assoc between]
    exact (List.prefix_append_right_inj (opener name)).mpr hhead
  · rw [List.append_assoc, List.append_assoc, ← List.append_assoc between] at hv
    exact hfirst v ((List.prefix_append_right_inj (opener name)).mp hv)

/-- A block is read exactly where an opening tag stands whose closing tag stands behind it. -/
theorem isSome_read?_iff {t : Text} : (read? t).isSome = true ↔
    ∃ name between post, CanName name ∧ t = opener name ++ between ++ closer name ++ post := by
  constructor
  · intro h
    obtain ⟨b, hb⟩ := Option.isSome_iff_exists.mp h
    obtain ⟨hname, ⟨post, rfl⟩, -⟩ := read?_eq_some_iff.mp hb
    exact ⟨b.writtenName, b.body, post, isName_iff.mp hname, rfl⟩
  · rintro ⟨name, between, post, hname, rfl⟩
    obtain ⟨body, hread⟩ := exists_read?_eq (isName_iff.mpr hname) between post
    rw [hread]
    rfl

/-- Whether a block ends with the first closing tag behind its opening tag, where what follows the
opening tag is known. -/
structure EndsAtFirst (b : Placed ToggleBlock) (name rest : Text) : Prop where
  name_eq : b.item.name = Text.trim name
  closes : b.item.body ++ closer name <+: rest
  closes_first : ∀ v, v ++ closer name <+: rest → b.item.body.length ≤ v.length
  body_start : (bodySpan b).start = b.span.start + Text.width (opener name)
  body_stop : (bodySpan b).stop = (bodySpan b).start + b.item.body.width
  stop_eq : b.span.stop = (bodySpan b).stop + Text.width (closer name)
  not_infix : ¬ closer name <:+: b.item.body

/-- Whether blocks that were found in a text are the leftmost and shortest ones: they start exactly
where an opening tag stands that lies in no earlier block and whose closing tag stands behind it,
each ends with the first such tag, and they come in order without sharing a byte. -/
structure EndsAtFirstClosing (t : Text) (found : List (Placed ToggleBlock)) : Prop where
  exists_mem_iff : ∀ offset, (∃ b ∈ found, b.span.start = offset) ↔ Scan.Clear found offset ∧
    ∃ pre name between post, pre.width = offset ∧ CanName name ∧
      t = pre ++ (opener name ++ between ++ closer name ++ post)
  endsAtFirst : ∀ b ∈ found, ∀ pre name rest, pre.width = b.span.start → CanName name →
    t = pre ++ (opener name ++ rest) → EndsAtFirst b name rest
  body_slice : ∀ b ∈ found, (bodySpan b).slice? t = some b.item.body
  start_lt_stop : ∀ b ∈ found, b.span.start < b.span.stop
  pairwise : found.Pairwise fun b c ↦ b.span.stop ≤ c.span.start

/-- A block that is read behind an opening tag ends with the first closing tag of that name. -/
theorem endsAtFirst_of_read? {t : Text} {b : Placed ToggleBlock} (hb : b ∈ all t) {name rest : Text}
    (hname : CanName name) (hread : read? (opener name ++ rest) = some b.item) :
    EndsAtFirst b name rest := by
  obtain ⟨hwritten, hsource, hfirst⟩ := read?_eq_some_iff.mp hread
  have htag : ToggleTag.read? .opening (opener name ++ rest) = some ⟨.opening, name⟩ :=
    ToggleTag.read?_eq_some_iff.mpr ⟨rfl, isName_iff.mpr hname, List.prefix_append _ _⟩
  have htag' : ToggleTag.read? .opening (opener name ++ rest) =
      some ⟨.opening, b.item.writtenName⟩ := by
    refine ToggleTag.read?_eq_some_iff.mpr ⟨rfl, hwritten, ?_⟩
    rw [source_eq] at hsource
    exact (List.prefix_append _ _).trans hsource
  have hsame : b.item.writtenName = name :=
    (ToggleTag.mk.inj (Option.some.inj (htag'.symm.trans htag))).2
  have hslice := slice?_of_mem_all hb
  obtain ⟨pre, post, -, hspan⟩ := Span.slice?_eq_some_iff.mp hslice
  rw [source_eq, openingTag_eq, closingTag_eq, hsame] at hsource hspan
  rw [openingTag_eq, closingTag_eq, hsame] at hfirst
  have hcloses := (List.prefix_append_right_inj (opener name)).mp hsource
  have hshortest : ∀ v, v ++ closer name <+: rest → b.item.body.length ≤ v.length :=
    fun v hv ↦ hfirst v ((List.prefix_append_right_inj (opener name)).mpr hv)
  refine
    { name_eq := congrArg Text.trim hsame
      closes := hcloses
      closes_first := hshortest
      body_start := by rw [bodySpan, openingTag_eq, hsame]
      body_stop := rfl
      stop_eq := ?_
      not_infix := ?_ }
  · rw [bodySpan, openingTag_eq, hsame, hspan]
    dsimp only
    rw [Text.width_append, Text.width_append, ← Nat.add_assoc, ← Nat.add_assoc]
  · rintro ⟨u, w, hbody⟩
    have hearlier : u ++ closer name <+: rest := by
      refine List.IsPrefix.trans ?_ hcloses
      rw [← hbody]
      exact (List.prefix_append _ w).trans (List.prefix_append _ _)
    have hle := hshortest u hearlier
    have hpos : 0 < (closer name).length :=
      List.length_pos_iff.mpr (ToggleTag.source_ne_nil ⟨.closing, name⟩)
    rw [← hbody] at hle
    simp only [List.length_append] at hle
    omega

/-- The blocks of a text are exactly the leftmost and shortest ones. -/
theorem endsAtFirstClosing_all (t : Text) : EndsAtFirstClosing t (all t) := by
  refine ⟨fun offset ↦ ?_, ?_, fun b hb ↦ bodySpan_slice? hb, fun b hb ↦ ?_,
    Scan.pairwise_items lawful t⟩
  · rw [all, Scan.exists_mem_start_iff lawful]
    refine and_congr_right fun _ ↦ ⟨?_, ?_⟩
    · rintro ⟨pre, rest, rfl, hoffset, hsome⟩
      obtain ⟨name, between, post, hname, rfl⟩ := isSome_read?_iff.mp hsome
      exact ⟨pre, name, between, post, hoffset, hname, rfl⟩
    · rintro ⟨pre, name, between, post, hoffset, hname, rfl⟩
      exact ⟨pre, _, rfl, hoffset, isSome_read?_iff.mpr ⟨name, between, post, hname, rfl⟩⟩
  · intro b hb pre name rest hstart hname ht
    exact endsAtFirst_of_read? hb hname (Scan.read?_of_mem_items lawful hb ht hstart)
  · exact (Scan.fits_of_mem_items lawful t hb).start_lt_stop

/-- An opening tag that is not closed hides no block behind it. -/
example : (all "{{toggle:A}}{{toggle:B}}x{{/toggle:B}}".toList).map (·.span) = [⟨12, 38⟩] := by
  decide +kernel

end ToggleBlock

end PromptTemplate
