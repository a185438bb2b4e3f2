import PromptTemplate.Proofs.DecimalText
import PromptTemplate.Proofs.Document
import PromptTemplate.Proofs.ToggleGrammar

/-!
What the scans find in a document. The directives found are those of the controls and the opening
tags of the toggles (`known_source`), and the blocks found are the toggles (`all_source`). No item
changes what is found in another one: a control is read at its own head and nowhere inside of it,
literal text is passed, and no closing tag begins in the body of a toggle (`passes_closingTag`).
-/

set_option autoImplicit false
set_option relaxedAutoImplicit false

namespace PromptTemplate.Document

open Scan

/-! ### What the marks leave to the parts -/

theorem mem_intercalate {separator : Char} {texts : List Text} {c : Char}
    (hc : c ∈ [separator].intercalate texts) : c = separator ∨ ∃ t ∈ texts, c ∈ t := by
  induction texts with
  | nil => cases hc
  | cons t texts ih =>
    cases texts with
    | nil =>
      rw [List.intercalate_singleton] at hc
      exact Or.inr ⟨t, List.mem_cons_self, hc⟩
    | cons t' texts =>
      rw [List.intercalate_cons_cons, List.append_assoc, List.mem_append, List.mem_append,
        List.mem_singleton] at hc
      rcases hc with hc | hc | hc
      · exact Or.inr ⟨t, List.mem_cons_self, hc⟩
      · exact Or.inl hc
      · obtain heq | ⟨t'', ht'', hc⟩ := ih hc
        · exact Or.inl heq
        · exact Or.inr ⟨t'', List.mem_cons_of_mem _ ht'', hc⟩

theorem Label.isName (l : Label) : IsName l.text where
  plain c hc := by
    have hplain := l.plain c hc
    simp only [List.mem_cons, not_or] at hplain
    simp only [endsName, Bool.or_eq_false_iff, beq_eq_false_iff_ne]
    exact ⟨hplain.1, hplain.2.2.1⟩
  trim_ne_nil := by
    rw [l.trim_eq]
    exact l.ne_nil

theorem Label.brace_not_mem (l : Label) : '{' ∉ l.text :=
  fun hc ↦ l.plain '{' hc (by decide)

theorem Setting.brace_not_mem_rest (g : Setting) : ∀ c ∈ g.rest, c ∉ ['{', '}'] := by
  intro c hc hbrace
  have hseparator : c ≠ '|' ∧ c ≠ ':' := by
    simp only [List.mem_cons, List.not_mem_nil, or_false] at hbrace
    rcases hbrace with rfl | rfl <;> decide
  have hcolon : c ∈ [':', '{', '}'] := List.mem_cons_of_mem _ hbrace
  cases g with
  | text initial => exact initial.plain c hc hbrace
  | select first more =>
    rcases mem_intercalate hc with heq | ⟨t, ht, hc⟩
    · exact hseparator.1 heq
    · obtain ⟨choice, -, rfl⟩ := List.mem_map.mp ht
      exact choice.plain c hc (List.mem_cons_of_mem _ hbrace)
  | slider position least greatest =>
    rcases mem_intercalate hc with heq | ⟨t, ht, hc⟩
    · exact hseparator.2 heq
    · simp only [List.mem_cons, List.not_mem_nil, or_false] at ht
      rcases ht with rfl | rfl | rfl
      · exact position.plain c hc hcolon
      · exact (Integer.plain_of_mem_text hc).2 hcolon
      · exact (Integer.plain_of_mem_text hc).2 hcolon

/-! ### Controls -/

theorem trim_keyword (kind : Kind) : Text.trim kind.keyword = kind.keyword := by
  cases kind <;> decide

theorem isName_keyword (kind : Kind) : IsName kind.keyword := by
  refine isName_of_trim_eq ?_ (trim_keyword kind) ?_
  · cases kind <;> decide
  · cases kind <;> exact List.cons_ne_nil _ _

/-- The directive of a control is one that can be read back. -/
theorem Control.valid (c : Control) : c.directive.Valid where
  keyword_isName := isName_keyword _
  name_isName := c.name.isName
  rest_closed rest hrest hmem := by
    obtain rfl := Option.some.inj hrest
    exact c.setting.brace_not_mem_rest '}' hmem (by decide)

theorem Control.kind?_directive (c : Control) : c.directive.kind? = some c.setting.kind := by
  rw [Directive.kind?, Directive.keyword, Control.directive, trim_keyword,
    Kind.ofKeyword?_keyword]

/-- A control is no toggle tag. -/
theorem Control.not_mark_isPrefix (c : Control) (role : TagRole) (t : Text) :
    ¬ role.mark <+: c.source ++ t := by
  obtain ⟨name, setting⟩ := c
  rw [Control.source, Directive.source_eq]
  cases role <;> cases setting <;>
    simp [TagRole.mark, openMark, Control.directive, Setting.kind, Kind.keyword,
      List.cons_prefix_cons]

/-- A directive without inner braces is passed if it is not read at its head. -/
theorem passes_directive {α : Type} {read? : Text → Option α} (law : Opens read?)
    {d : Directive} (hkeyword : '{' ∉ d.writtenKeyword) (hname : '{' ∉ d.writtenName)
    (hrest : ∀ rest, d.rest = some rest → '{' ∉ rest)
    (hhead : ∀ t, read? (d.source ++ t) = none) : Passes read? d.source := by
  have hmarks : '{' ∉ closeMark ∧ '{' ≠ ':' := by decide
  rw [Directive.source_eq] at hhead ⊢
  refine passes_of_tag law (List.append_ne_nil_of_right_ne_nil _ (List.cons_ne_nil _ _)) ?_ hhead
  have hclose : '{' ∉ Directive.restSource d.rest ++ closeMark := by
    cases hd : d.rest with
    | none => exact hmarks.1
    | some rest =>
      simp only [Directive.restSource, List.mem_append, List.mem_cons, not_or]
      exact ⟨⟨hmarks.2, hrest rest hd⟩, hmarks.1⟩
  simp only [List.mem_append (s := d.writtenKeyword), List.mem_append (s := d.writtenName),
    List.mem_cons, not_or]
  exact ⟨hkeyword, hmarks.2, hname, hclose⟩

/-- A scan goes past a control if it reads nothing where the control stands. -/
theorem Control.passes {α : Type} {read? : Text → Option α} (law : Opens read?) (c : Control)
    (hhead : ∀ t, read? (c.source ++ t) = none) : Passes read? c.source := by
  have hkeyword : '{' ∉ c.setting.kind.keyword := by
    cases c.setting.kind <;> decide
  refine passes_directive law hkeyword c.name.brace_not_mem (fun rest hrest hmem ↦ ?_) hhead
  obtain rfl := Option.some.inj hrest
  exact c.setting.brace_not_mem_rest '{' hmem (by decide)

/-- What reads no control passes literal text and controls. -/
theorem Piece.passes {α : Type} {read? : Text → Option α} (law : Opens read?)
    (hcontrol : ∀ (c : Control) (t : Text), read? (c.source ++ t) = none) (p : Piece) :
    Passes read? p.source := by
  cases p with
  | literal l => exact passes_of_plain law fun hmem ↦ l.plain '{' hmem (by decide)
  | control c => exact c.passes law (hcontrol c)

/-! ### Toggles -/

/-- What begins with a tag of a toggle begins with the opening mark. -/
theorem opens_of_mark {α : Type} {read? : Text → Option α} (role : TagRole)
    (h : ∀ {t : Text} {item : α}, read? t = some item → role.mark <+: t) : Opens read? := by
  intro t item hitem
  have hmark : openMark <+: role.mark := by
    cases role <;> exact List.prefix_append _ _
  exact hmark.trans (h hitem)

theorem isPrefix_tag (role : TagRole) (name : Text) :
    role.mark <+: ToggleTag.source ⟨role, name⟩ := by
  rw [ToggleTag.source, List.append_assoc]
  exact List.prefix_append _ _

/-- No closing tag begins in the body of a toggle. -/
theorem Toggle.passes_closingTag (g : Toggle) :
    Passes (exactly? g.block.closingTag) g.block.body := by
  have hmark : ∀ {t : Text} {u : Unit}, exactly? g.block.closingTag t = some u →
      TagRole.closing.mark <+: t := fun h ↦
    (isPrefix_tag .closing g.block.writtenName).trans (isPrefix_of_exactly? h)
  refine Passes.flatMap g.body fun p _ ↦ p.passes (opens_of_mark .closing hmark) fun c t ↦ ?_
  cases hread : exactly? g.block.closingTag (c.source ++ t) with
  | none => rfl
  | some u => exact absurd (hmark hread) (c.not_mark_isPrefix .closing t)

/-- A toggle is read as a block, up to its own closing tag. -/
theorem Toggle.read?_source (g : Toggle) (t : Text) :
    ToggleBlock.read? (g.source ++ t) = some g.block := by
  refine ToggleBlock.read?_eq_some_iff.mpr
    ⟨g.name.isName, List.prefix_append _ _, fun v hv ↦ ?_⟩
  rw [Toggle.source, ToggleBlock.source_eq, List.append_assoc, List.append_assoc] at hv
  exact length_le_of_passes g.passes_closingTag ((List.prefix_append_right_inj _).mp hv)

/-- A block is only read behind the mark of an opening tag. -/
theorem isPrefix_of_readBlock? {t : Text} {b : ToggleBlock} (h : ToggleBlock.read? t = some b) :
    TagRole.opening.mark <+: t := by
  have hsource := (ToggleBlock.read?_eq_some_iff.mp h).2.1
  rw [ToggleBlock.source_eq] at hsource
  exact (isPrefix_tag .opening b.writtenName).trans
    ((List.prefix_append _ _).trans hsource)

/-! ### The blocks of a document -/

/-- The blocks of an item that is written at an offset. -/
def Item.blocks : Item → Nat → List (Placed ToggleBlock)
  | .piece _, _ => []
  | .toggle g, offset => [⟨g.block, ⟨offset, offset + g.source.width⟩⟩]

/-- The scan for blocks takes a toggle and nothing else of an item. -/
theorem Item.reads_blocks (i : Item) :
    Reads ToggleBlock.read? ToggleBlock.source i.source i.blocks := by
  cases i with
  | piece p =>
    refine Passes.reads (p.passes (opens_of_mark .opening isPrefix_of_readBlock?) fun c t ↦ ?_)
    cases hread : ToggleBlock.read? (c.source ++ t) with
    | none => rfl
    | some b => exact absurd (isPrefix_of_readBlock? hread) (c.not_mark_isPrefix .opening t)
  | toggle g => exact reads_item g.read?_source

/-- The blocks of a document are its toggles. -/
theorem all_source (doc : Document) : ToggleBlock.all doc.source =
    (placedFrom Item.source 0 doc).flatMap fun p ↦ p.item.blocks p.span.start :=
  (Reads.flatMap doc fun i _ ↦ i.reads_blocks).items_eq ToggleBlock.lawful

/-! ### The directives of a document -/

/-- The directives of a piece that is written at an offset. -/
def Piece.directives : Piece → Nat → List (Placed Directive)
  | .literal _, _ => []
  | .control c, offset => [⟨c.directive, ⟨offset, offset + c.source.width⟩⟩]

/-- The directives of the pieces in the body of a toggle whose body is written at an offset. -/
def Toggle.bodyDirectives (g : Toggle) (offset : Nat) : List (Placed Directive) :=
  (placedFrom Piece.source offset g.body).flatMap fun p ↦ p.item.directives p.span.start

/-- The directives of an item that is written at an offset. -/
def Item.directives : Item → Nat → List (Placed Directive)
  | .piece p, offset => p.directives offset
  | .toggle g, offset =>
    ⟨tagDirective .opening g.name.text, ⟨offset, offset + g.block.openingTag.width⟩⟩ ::
      g.bodyDirectives (offset + g.block.openingTag.width)

/-- The reader of directives whose keyword names a kind. -/
abbrev readKnown? (t : Text) : Option Directive := (Directive.read? t).filter (·.kind?.isSome)

theorem opens_readKnown? : Opens readKnown? :=
  Directive.lawful_known.opens Directive.openMark_isPrefix_source

/-- A directive of some kind is read wherever its source stands. -/
theorem reads_directive {d : Directive} (hvalid : d.Valid) (hkind : d.kind?.isSome = true) :
    Reads readKnown? Directive.source d.source fun n ↦ [⟨d, ⟨n, n + d.source.width⟩⟩] := by
  refine reads_item fun t ↦ ?_
  rw [readKnown?, Directive.read?_eq_some_iff.mpr ⟨hvalid, List.prefix_append _ _⟩,
    Option.filter_some, if_pos hkind]

/-- The scan for directives takes a control and nothing else of a piece. -/
theorem Piece.reads_directives (p : Piece) :
    Reads readKnown? Directive.source p.source p.directives := by
  cases p with
  | literal l =>
    exact (passes_of_plain opens_readKnown? fun hmem ↦ l.plain '{' hmem (by decide)).reads
  | control c =>
    exact reads_directive c.valid (by rw [c.kind?_directive]; rfl)

/-- The scan for directives takes those of the pieces of a body. -/
theorem Toggle.reads_body (g : Toggle) :
    Reads readKnown? Directive.source g.block.body g.bodyDirectives :=
  Reads.flatMap g.body fun p _ ↦ p.reads_directives

/-- An opening tag is a directive of its own. -/
theorem Toggle.reads_openingTag (g : Toggle) :
    Reads readKnown? Directive.source g.block.openingTag fun n ↦
      [⟨tagDirective .opening g.name.text, ⟨n, n + g.block.openingTag.width⟩⟩] := by
  have hreads := reads_directive (valid_tagDirective .opening g.name.isName)
    (Option.isSome_iff_exists.mpr ⟨_, kind?_tagDirective .opening _⟩)
  rwa [source_tagDirective] at hreads

/-- A closing tag can be read as a directive, but it is of no kind. -/
theorem Toggle.passes_closingTag_of_readKnown? (g : Toggle) :
    Passes readKnown? g.block.closingTag := by
  have hsource : g.block.closingTag = (tagDirective .closing g.name.text).source :=
    (source_tagDirective .closing g.name.text).symm
  have hhead : ∀ t, readKnown? ((tagDirective .closing g.name.text).source ++ t) = none := by
    intro t
    rw [readKnown?, Directive.read?_eq_some_iff.mpr
      ⟨valid_tagDirective .closing g.name.isName, List.prefix_append _ _⟩, Option.filter_some]
    refine if_neg ?_
    rw [kind?_tagDirective]
    exact Bool.false_ne_true
  have hkeyword : '{' ∉ tagKeyword .closing := by decide
  rw [hsource]
  exact passes_directive opens_readKnown? hkeyword g.name.brace_not_mem
    (fun _ hrest ↦ by cases hrest) hhead

/-- The scan for directives takes the control of an item, or its opening tag and what is in its
body. -/
theorem Item.reads_directives (i : Item) :
    Reads readKnown? Directive.source i.source i.directives := by
  cases i with
  | piece p => exact p.reads_directives
  | toggle g =>
    have hreads := Reads.append g.reads_openingTag
      (Reads.append g.reads_body g.passes_closingTag_of_readKnown?.reads)
    rw [← ToggleBlock.source_eq] at hreads
    simp only [List.append_nil, List.singleton_append] at hreads
    exact hreads

/-- The directives of a document are its flat controls and the opening tags of its toggles. -/
theorem known_source (doc : Document) : Directive.known doc.source =
    (placedFrom Item.source 0 doc).flatMap fun p ↦ p.item.directives p.span.start :=
  (Reads.flatMap doc fun i _ ↦ i.reads_directives).items_eq Directive.lawful_known

/-- The directives in the body of a toggle are its flat controls. -/
theorem known_body (g : Toggle) : Directive.known g.block.body = g.bodyDirectives 0 :=
  g.reads_body.items_eq Directive.lawful_known

end PromptTemplate.Document
