import PromptTemplate.Proofs.ToggleGrammar

/-!
Items between double braces. Tags and directives are both spelled between the opening and the
closing mark with no closing brace in between (`IsBraced`). So of two of them that share a byte the
one that starts later is the end of the other (`IsBraced.suffix_of_start_mem`), and a scan takes the
one that starts first (`Scan.Braced.mem_items_iff`).

A tag holds one colon, in front of its name, and nothing that is read between double braces can do
without one. So what shares a byte with a tag stands where the tag stands or runs into it from the
left (`ToggleTag.eq_or_runsInto`), and a tag is found wherever it stands (`ToggleTag.mem_all_iff`).
-/

set_option autoImplicit false
set_option relaxedAutoImplicit false

namespace PromptTemplate

/-- Whether a text is spelled between the marks, with no closing brace in between. -/
def IsBraced (m : Text) : Prop := ∃ inner, '}' ∉ inner ∧ m = openMark ++ inner ++ closeMark

namespace IsBraced

/-- A braced text ends with the only closing mark in it. -/
theorem exists_head {m : Text} (h : IsBraced m) :
    ∃ head : Text, '}' ∉ head ∧ openMark <+: head ∧ m = head ++ closeMark := by
  obtain ⟨inner, hinner, rfl⟩ := h
  exact ⟨openMark ++ inner, by simpa [openMark] using hinner, List.prefix_append _ _, rfl⟩

/-- What precedes the first closing mark is determined by the text. -/
theorem head_unique {head head' post post' : Text} (hhead : '}' ∉ head) (hhead' : '}' ∉ head')
    (h : head' ++ (closeMark ++ post') = head ++ (closeMark ++ post)) : head' = head := by
  have htake : ∀ s rest : Text, '}' ∉ s → (s ++ (closeMark ++ rest)).takeWhile (· != '}') = s := by
    intro s rest hs
    have hrun : ∀ c ∈ s, (c != '}') = true := fun c hc ↦ bne_iff_ne.mpr fun heq ↦ hs (heq ▸ hc)
    exact (Text.takeWhile_dropWhile_append hrun (by decide) ('}' :: rest)).1
  rw [← htake head' post' hhead', h, htake head post hhead]

/-- A braced text that begins within another one is the end of it. Nothing opens at the closing mark
or between its braces. -/
theorem eq_append_of_append_eq {m m' skipped post post' : Text} (hm : IsBraced m)
    (hm' : IsBraced m') (h : skipped ++ (m' ++ post') = m ++ post)
    (hlt : skipped.width < m.width) : m = skipped ++ m' := by
  obtain ⟨head, hhead, -, rfl⟩ := hm.exists_head
  obtain ⟨head', hhead', ⟨inner, rfl⟩, rfl⟩ := hm'.exists_head
  rw [List.append_assoc _ closeMark, List.append_assoc _ closeMark] at h
  rcases Nat.le_total skipped.width head.width with hle | hle
  · obtain ⟨n, rfl, hrest⟩ := Text.exists_append_of_width_le h hle
    have hnot : '}' ∉ n := fun hmem ↦ hhead (List.mem_append_right _ hmem)
    rw [head_unique hnot hhead' hrest, List.append_assoc]
  · exfalso
    obtain ⟨n, rfl, hrest⟩ := Text.exists_append_of_width_le h.symm hle
    rw [Text.width_append, Text.width_append, Nat.add_lt_add_iff_left] at hlt
    match n with
    | [] => simp [openMark, closeMark] at hrest
    | [c] => simp [openMark, closeMark] at hrest
    | c :: d :: n =>
      obtain ⟨rfl, rfl, -⟩ : c = '}' ∧ d = '}' ∧ True := by
        simp only [closeMark, List.cons_append, List.cons.injEq] at hrest
        exact ⟨hrest.1.symm, hrest.2.1.symm, trivial⟩
      simp only [closeMark, Text.width_cons, Text.width_nil] at hlt
      omega

/-- A braced text that stands again further right in a text stands behind its first place. -/
theorem eq_nil_or_append {m skipped post post' : Text} (hm : IsBraced m)
    (h : m ++ post = skipped ++ (m ++ post')) : skipped = [] ∨ ∃ rest, skipped = m ++ rest := by
  rcases Nat.lt_or_ge skipped.width m.width with hlt | hle
  · have hself := hm.eq_append_of_append_eq hm h.symm hlt
    exact Or.inl (List.self_eq_append_left.mp hself)
  · obtain ⟨rest, hskipped, -⟩ := Text.exists_append_of_width_le h hle
    exact Or.inr ⟨rest, hskipped⟩

/-- Of two braced items that share a byte, the one that starts later ends the other one. -/
theorem suffix_of_start_mem {t m m' : Text} {s s' : Span} (hm : IsBraced m) (hm' : IsBraced m')
    (hs : s.slice? t = some m) (hs' : s'.slice? t = some m') (hle : s.start ≤ s'.start)
    (hlt : s'.start < s.stop) : s'.stop = s.stop ∧ m' <:+ m := by
  obtain ⟨pre, post, ht, rfl⟩ := Span.slice?_eq_some_iff.mp hs
  obtain ⟨pre', post', ht', rfl⟩ := Span.slice?_eq_some_iff.mp hs'
  rw [List.append_assoc] at ht ht'
  obtain ⟨skipped, rfl, hrest⟩ := Text.exists_append_of_width_le (ht.symm.trans ht') hle
  simp only [Text.width_append] at hlt ⊢
  obtain rfl := eq_append_of_append_eq hm hm' hrest.symm (by omega)
  rw [Text.width_append]
  exact ⟨by omega, List.suffix_append _ _⟩

end IsBraced

/-! ### Scans for braced items -/

namespace Scan

variable {α : Type} {read? : Text → Option α} {source : α → Text} {accepts : α → Prop}

/-- A reader that reads the items of some sort, which are braced, wherever they are spelled. -/
structure Braced (read? : Text → Option α) (source : α → Text) (accepts : α → Prop) : Prop where
  read?_eq_some_iff : ∀ {t : Text} {item : α},
    read? t = some item ↔ accepts item ∧ source item <+: t
  isBraced : ∀ {item : α}, accepts item → IsBraced (source item)

theorem Braced.lawful (law : Braced read? source accepts) : Lawful read? source where
  source_isPrefix h := (law.read?_eq_some_iff.mp h).2
  source_ne_nil h := by
    obtain ⟨inner, -, hsource⟩ := law.isBraced (law.read?_eq_some_iff.mp h).1
    rw [hsource]
    exact List.cons_ne_nil _ _

/-- Where something can be read, a scan is within an item that it takes. -/
theorem Run.exists_mem_of_read? (law : Lawful read? source) {offset : Nat} {t : Text}
    {found : List (Placed α)} (run : Run read? source offset t found) {pre rest : Text}
    (ht : t = pre ++ rest) {item : α} (hread : read? rest = some item) :
    ∃ p ∈ found, p.span.start ≤ offset + pre.width ∧ offset + pre.width < p.span.stop := by
  induction run generalizing pre with
  | done offset =>
    obtain ⟨rfl, rfl⟩ := List.append_eq_nil_iff.mp ht.symm
    have hnil := List.prefix_nil.mp (law.source_isPrefix hread)
    exact absurd hnil (law.source_ne_nil hread)
  | @pass offset c t found hnone _ ih =>
    cases pre with
    | nil =>
      rw [List.nil_append] at ht
      rw [ht, hread] at hnone
      cases hnone
    | cons d pre =>
      obtain ⟨rfl, rfl⟩ := List.cons.inj ht
      obtain ⟨p, hp, hstart, hstop⟩ := ih rfl
      rw [Text.width_cons, ← Nat.add_assoc]
      exact ⟨p, hp, hstart, hstop⟩
  | @take offset taken t found htaken _ ih =>
    rcases Nat.lt_or_ge pre.width (source taken).width with hlt | hle
    · exact ⟨_, List.mem_cons_self, Nat.le_add_right _ _, Nat.add_lt_add_left hlt offset⟩
    · obtain ⟨m, rfl, rfl⟩ := Text.exists_append_of_width_le ht hle
      obtain ⟨p, hp, hstart, hstop⟩ := ih rfl
      rw [Text.width_append, ← Nat.add_assoc]
      exact ⟨p, List.mem_cons_of_mem _ hp, hstart, hstop⟩

section Items

variable (law : Braced read? source accepts) {t : Text}
include law

theorem Braced.accepts_of_mem {p : Placed α} (hp : p ∈ items read? source t) :
    accepts p.item := by
  obtain ⟨pre, post, -, -, hread⟩ := (run_items law.lawful t).exists_append_of_mem hp
  exact (law.read?_eq_some_iff.mp hread).1

theorem Braced.start_lt_stop {p : Placed α} (haccepts : accepts p.item)
    (hslice : p.span.slice? t = some (source p.item)) : p.span.start < p.span.stop := by
  have hread := law.read?_eq_some_iff.mpr ⟨haccepts, List.prefix_refl (source p.item)⟩
  exact (Span.fits_of_slice?_eq_some hslice (law.lawful.source_ne_nil hread)).start_lt_stop

/-- Wherever an item is spelled, one is taken that starts there or before and ends where it does. -/
theorem Braced.exists_mem {p : Placed α} (haccepts : accepts p.item)
    (hslice : p.span.slice? t = some (source p.item)) :
    ∃ q ∈ items read? source t, q.span.start ≤ p.span.start ∧ q.span.stop = p.span.stop := by
  obtain ⟨pre, post, ht, hspan⟩ := Span.slice?_eq_some_iff.mp hslice
  have hread := law.read?_eq_some_iff.mpr ⟨haccepts, List.prefix_append (source p.item) post⟩
  rw [List.append_assoc] at ht
  obtain ⟨q, hq, hstart, hstop⟩ := (run_items law.lawful t).exists_mem_of_read? law.lawful ht hread
  rw [Nat.zero_add] at hstart hstop
  have hqslice := slice?_of_mem_items law.lawful t hq
  have hp : p.span.start = pre.width := by rw [hspan]
  refine ⟨q, hq, by rwa [hp], ?_⟩
  exact (IsBraced.suffix_of_start_mem (law.isBraced (law.accepts_of_mem hq))
    (law.isBraced haccepts) hqslice hslice (by rwa [hp]) (by rwa [hp])).1.symm

/-- Items that are spelled at the same place are the same. -/
theorem Braced.eq_of_span_eq {p q : Placed α} (hp : accepts p.item) (hq : accepts q.item)
    (hpslice : p.span.slice? t = some (source p.item))
    (hqslice : q.span.slice? t = some (source q.item)) (h : p.span = q.span) : p = q := by
  rw [h, hqslice, Option.some.injEq] at hpslice
  have hread := law.read?_eq_some_iff.mpr ⟨hp, List.prefix_refl (source p.item)⟩
  have hread' := law.read?_eq_some_iff.mpr ⟨hq, List.prefix_refl (source q.item)⟩
  rw [← hpslice, hread', Option.some.injEq] at hread
  exact congrArg₂ Placed.mk hread.symm h

/-- A scan takes the items that no other item runs into from the left. -/
theorem Braced.mem_items_iff {p : Placed α} :
    p ∈ items read? source t ↔
      accepts p.item ∧ p.span.slice? t = some (source p.item) ∧
        ∀ q : Placed α, accepts q.item → q.span.slice? t = some (source q.item) →
          q.span.start < p.span.start → q.span.stop ≤ p.span.start := by
  constructor
  · intro hp
    have hslice := slice?_of_mem_items law.lawful t hp
    refine ⟨law.accepts_of_mem hp, hslice, fun q hq hqslice hlt ↦ Nat.not_lt.mp fun hover ↦ ?_⟩
    obtain ⟨r, hr, hstart, hstop⟩ := law.exists_mem hq hqslice
    have hpos := law.start_lt_stop (law.accepts_of_mem hp) hslice
    rcases eq_or_apart_of_mem_items law.lawful t hp hr with rfl | hapart | hapart
    · omega
    · omega
    · omega
  · rintro ⟨hp, hslice, hfirst⟩
    obtain ⟨r, hr, hstart, hstop⟩ := law.exists_mem hp hslice
    have hrslice := slice?_of_mem_items law.lawful t hr
    have hraccepts := law.accepts_of_mem hr
    have hlt := law.start_lt_stop hp hslice
    have heq : r.span.start = p.span.start := by
      rcases Nat.lt_or_eq_of_le hstart with hlt' | heq
      · have hle := hfirst r hraccepts hrslice hlt'
        omega
      · exact heq
    have hspan : r.span = p.span := by
      cases hrs : r.span
      cases hps : p.span
      simp_all
    rwa [← law.eq_of_span_eq hraccepts hp hrslice hslice hspan]

end Items

end Scan

/-! ### Tags and directives -/

/-- Neither the mark behind a name nor the one that closes an item stands in a name. -/
theorem IsName.not_mem {written : Text} (h : IsName written) : ':' ∉ written ∧ '}' ∉ written := by
  refine ⟨fun hmem ↦ ?_, fun hmem ↦ ?_⟩
  · exact absurd (h.plain ':' hmem) (by decide)
  · exact absurd (h.plain '}' hmem) (by decide)

theorem TagRole.mark_eq (role : TagRole) : role.mark = openMark ++ (tagKeyword role ++ [':']) := by
  cases role <;> rfl

namespace Directive

/-- The source of a directive that can be read back is braced. -/
theorem isBraced_source {d : Directive} (h : d.Valid) : IsBraced d.source := by
  have hrest : '}' ∉ restSource d.rest := by
    cases hd : d.rest with
    | none => exact List.not_mem_nil
    | some rest =>
      rw [restSource, List.mem_cons, not_or]
      exact ⟨by decide, h.rest_closed rest hd⟩
  refine ⟨d.writtenKeyword ++ ':' :: (d.writtenName ++ restSource d.rest), ?_, ?_⟩
  · simp only [List.mem_append, List.mem_cons, not_or]
    exact ⟨h.keyword_isName.not_mem.2, by decide, h.name_isName.not_mem.2, hrest⟩
  · rw [source_eq]
    simp only [List.append_assoc, List.cons_append]

theorem colon_mem_source (d : Directive) : ':' ∈ d.source := by
  rw [source_eq]
  simp

/-- The scan for the directives of some sort is one for braced items. -/
theorem braced (accept : Directive → Bool) :
    Scan.Braced (fun t ↦ (read? t).filter accept) source fun d ↦ d.Valid ∧ accept d = true where
  read?_eq_some_iff {t d} := by
    rw [Option.filter_eq_some_iff, read?_eq_some_iff]
    exact and_right_comm
  isBraced h := isBraced_source h.1

end Directive

namespace ToggleTag

theorem source_eq (tag : ToggleTag) : tag.source =
    openMark ++ (tagKeyword tag.role ++ ':' :: (tag.writtenName ++ closeMark)) := by
  rw [source, TagRole.mark_eq]
  simp only [List.append_assoc, List.cons_append, List.nil_append]

/-- The source of a tag with a name is braced. -/
theorem isBraced_source {tag : ToggleTag} (h : IsName tag.writtenName) : IsBraced tag.source := by
  rw [← source_tagDirective]
  exact Directive.isBraced_source (valid_tagDirective tag.role h)

theorem colon_mem_source (tag : ToggleTag) : ':' ∈ tag.source := by
  rw [source_eq]
  simp

/-- The scan for tags of a role is one for braced items. -/
theorem braced (role : TagRole) :
    Scan.Braced (read? role) source fun tag ↦ tag.role = role ∧ IsName tag.writtenName where
  read?_eq_some_iff := by simp only [read?_eq_some_iff, and_assoc, implies_true]
  isBraced h := isBraced_source h.2

/-- A tag has one colon. -/
theorem count_colon_source {tag : ToggleTag} (hname : IsName tag.writtenName) :
    tag.source.count ':' = 1 := by
  have hkeyword : (tagKeyword tag.role).count ':' = 0 := by cases tag.role <;> decide
  have hwritten : tag.writtenName.count ':' = 0 := List.count_eq_zero.mpr hname.not_mem.1
  have hmarks : openMark.count ':' = 0 ∧ closeMark.count ':' = 0 := by decide
  rw [source_eq, List.count_append, List.count_append, List.count_cons_self, List.count_append,
    hkeyword, hwritten, hmarks.1, hmarks.2]

/-- In front of the colon of a tag nothing opens but the tag. The keyword holds no brace. -/
theorem eq_nil_of_append_openMark {tag : ToggleTag} {skipped rest : Text}
    (h : skipped ++ (openMark ++ rest) = tag.source) (hskipped : ':' ∉ skipped) :
    skipped = [] := by
  rw [source_eq] at h
  match skipped, h with
  | [], _ => rfl
  | [c], h => cases hrole : tag.role <;> simp [hrole, openMark, tagKeyword, Kind.keyword] at h
  | c :: d :: skipped, h =>
    have hrest : skipped ++ (openMark ++ rest) =
        tagKeyword tag.role ++ ':' :: (tag.writtenName ++ closeMark) :=
      (List.cons.inj (List.cons.inj h).2).2
    rcases List.append_eq_append_iff.mp hrest with ⟨n, hkeyword, hn⟩ | ⟨n, rfl, hn⟩
    · have hplain : '{' ∉ tagKeyword tag.role := by cases tag.role <;> decide
      cases n with
      | nil => simp [openMark] at hn
      | cons e n =>
        obtain rfl : '{' = e := (List.cons.inj hn).1
        rw [hkeyword] at hplain
        exact absurd (List.mem_append_right _ List.mem_cons_self) hplain
    · cases n with
      | nil => simp [openMark] at hn
      | cons e n =>
        obtain rfl : ':' = e := (List.cons.inj hn).1
        exact absurd (List.mem_cons_of_mem _ (List.mem_cons_of_mem _
          (List.mem_append_right _ List.mem_cons_self))) hskipped

/-- What ends a tag and holds a colon is the whole tag. -/
theorem eq_of_suffix {tag : ToggleTag} (hname : IsName tag.writtenName) {m : Text}
    (hm : IsBraced m) (hcolon : ':' ∈ m) (hsuffix : m <:+ tag.source) : m = tag.source := by
  obtain ⟨skipped, hskipped⟩ := hsuffix
  have hcount := count_colon_source hname
  have hpos := List.count_pos_iff.mpr hcolon
  rw [← hskipped, List.count_append] at hcount
  have hnot : ':' ∉ skipped := List.count_eq_zero.mp (by omega)
  obtain ⟨inner, -, rfl⟩ := hm
  rw [List.append_assoc openMark] at hskipped ⊢
  rw [← hskipped, eq_nil_of_append_openMark hskipped hnot, List.nil_append]

/-- What starts within a tag and holds a colon stands where the tag stands. -/
theorem span_eq_of_start_mem {t : Text} {tag : Placed ToggleTag}
    (hname : IsName tag.item.writtenName) (htag : tag.span.slice? t = some tag.item.source)
    {m : Text} {s : Span} (hm : IsBraced m) (hcolon : ':' ∈ m) (hs : s.slice? t = some m)
    (hle : tag.span.start ≤ s.start) (hlt : s.start < tag.span.stop) : s = tag.span := by
  obtain ⟨hstop, hsuffix⟩ := (isBraced_source hname).suffix_of_start_mem hm htag hs hle hlt
  have heq := eq_of_suffix hname hm hcolon hsuffix
  obtain ⟨pre, post, -, hspan⟩ := Span.slice?_eq_some_iff.mp htag
  obtain ⟨pre', post', -, rfl⟩ := Span.slice?_eq_some_iff.mp hs
  rw [hspan, heq] at hstop ⊢
  dsimp only at hstop
  rw [Nat.add_right_cancel hstop]

/-- What shares a byte with a tag stands where the tag stands or runs into it from the left. -/
theorem eq_or_runsInto {t : Text} {tag : Placed ToggleTag} (hname : IsName tag.item.writtenName)
    (htag : tag.span.slice? t = some tag.item.source) {m : Text} {s : Span} (hm : IsBraced m)
    (hcolon : ':' ∈ m) (hs : s.slice? t = some m) (hmeet : ¬ s.Apart tag.span) :
    s = tag.span ∨ s.RunsInto tag.span := by
  rw [Span.Apart, not_or, Nat.not_le, Nat.not_le] at hmeet
  rcases Nat.lt_or_ge s.start tag.span.start with hlt | hle
  · have hends := hm.suffix_of_start_mem (isBraced_source hname) hs htag (Nat.le_of_lt hlt) hmeet.1
    exact Or.inr ⟨hlt, hends.1.symm⟩
  · exact Or.inl (span_eq_of_start_mem hname htag hm hcolon hs hle hmeet.2)

/-- What shares a byte with a tag stops where the tag stops. -/
theorem stop_eq_of_not_apart {t : Text} {tag : Placed ToggleTag}
    (hname : IsName tag.item.writtenName) (htag : tag.span.slice? t = some tag.item.source)
    {m : Text} {s : Span} (hm : IsBraced m) (hcolon : ':' ∈ m) (hs : s.slice? t = some m)
    (hmeet : ¬ s.Apart tag.span) : s.stop = tag.span.stop := by
  rcases eq_or_runsInto hname htag hm hcolon hs hmeet with rfl | hruns
  · rfl
  · exact hruns.2

/-- A tag is found wherever it stands. Another that ran into it would stand where it stands. -/
theorem mem_all_iff {role : TagRole} {t : Text} {tag : Placed ToggleTag} :
    tag ∈ all role t ↔ tag.item.role = role ∧ IsName tag.item.writtenName ∧
      tag.span.slice? t = some tag.item.source := by
  rw [all, (braced role).mem_items_iff, and_assoc]
  refine and_congr_right fun hrole ↦ and_congr_right fun hname ↦ and_iff_left_of_imp fun htag ↦ ?_
  intro q hq hqslice hlt
  by_contra hover
  have hspan := span_eq_of_start_mem hq.2 hqslice (isBraced_source hname) (colon_mem_source _) htag
    (Nat.le_of_lt hlt) (Nat.not_le.mp hover)
  rw [hspan] at hlt
  exact Nat.lt_irrefl _ hlt

/-- Tags that share a byte stand at the same place. -/
theorem span_eq_of_not_apart {role role' : TagRole} {t : Text} {p q : Placed ToggleTag}
    (hp : p ∈ all role t) (hq : q ∈ all role' t) (hmeet : ¬ p.span.Apart q.span) :
    p.span = q.span := by
  obtain ⟨hprole, hpname, hpslice⟩ := mem_all_iff.mp hp
  obtain ⟨hqrole, hqname, hqslice⟩ := mem_all_iff.mp hq
  have hpbraced := isBraced_source hpname
  have hqbraced := isBraced_source hqname
  rcases eq_or_runsInto hqname hqslice hpbraced (colon_mem_source _) hpslice hmeet with
    heq | ⟨hstart, hstop⟩
  · exact heq
  · have hpos := (braced role').start_lt_stop ⟨hqrole, hqname⟩ hqslice
    exact (span_eq_of_start_mem hpname hpslice hqbraced (colon_mem_source _) hqslice
      (Nat.le_of_lt hstart) (hstop ▸ hpos)).symm

end ToggleTag

end PromptTemplate
