import PromptTemplate.Proofs.ConsistentDefaults
import PromptTemplate.Proofs.DecimalText
import PromptTemplate.Proofs.PlacedFindings
import PromptTemplate.Proofs.RepeatedMerging

/-!
Which controls are reported as declared again in another way. What is compared are signatures, and
flat declarations of one kind have the same signature exactly if they state the same
(`Diagnostic.signature_eq_iff`): the options of a select hold no bar, and the position and the
bounds of a slider no colon. Only a select that lists no options and one that lists a single option
without a text cannot be told apart; both have nothing to choose from and stand for an empty text.

So a conflict is reported exactly where a flat control states something else than the first one of
its kind and name, once for each such place (`Diagnostic.reportsConflicts`), and the difference
between no options and one without a text is not reported (`Diagnostic.not_reported_emptyOption`).
-/

set_option autoImplicit false
set_option relaxedAutoImplicit false

namespace PromptTemplate

namespace Text

/-- What stands before the first separator and what stands behind it are determined. -/
theorem eq_of_append_cons_eq {c : Char} {s s' rest rest' : Text} (hs : c ∉ s) (hs' : c ∉ s')
    (h : s ++ c :: rest = s' ++ c :: rest') : s = s' ∧ rest = rest' := by
  have hfront : s = s' := by
    rw [← takeWhile_bne_append hs rest, h, takeWhile_bne_append hs' rest']
  rw [hfront] at h
  exact ⟨hfront, (List.cons.inj (List.append_cancel_left h)).2⟩

end Text

theorem Integer.text_injective {m n : Int} (h : text m = text n) : m = n := by
  have hread := ofText?_text m
  rw [h, ofText?_text] at hread
  exact (Option.some.inj hread).symm

namespace Declaration

/-! ### What flat declarations state -/

/-- The options that there are to choose from. A single option without a text is none. -/
def offered (options : List Text) : List Text := if options = [[]] then [] else options

/-- What a flat declaration states of its control. -/
def stated (d : Declaration) : Text × List Text × Option SliderRange :=
  (d.defaultValue, offered d.options, d.range)

/-- The forms of what directives declare. -/
inductive FlatForm (d : Declaration) : Prop
  | text (hkind : d.kind = .text) (hoptions : d.options = []) (hrange : d.range = none)
  | select (hkind : d.kind = .select) (hdefault : d.defaultValue = d.options.headD [])
      (hoptions : ∀ o ∈ d.options, '|' ∉ o) (hrange : d.range = none)
  | slider {range : SliderRange} (hkind : d.kind = .slider) (hdefault : ':' ∉ d.defaultValue)
      (hoptions : d.options = []) (hrange : d.range = some range)

theorem flatForm_of_ofDirective? {p : Placed Directive} {d : Declaration}
    (h : ofDirective? p = some d) : d.FlatForm := by
  obtain ⟨kind, -, h⟩ := Option.bind_eq_some_iff.mp h
  cases kind with
  | toggle => cases h
  | text =>
    obtain rfl := Option.some.inj h
    exact .text rfl rfl rfl
  | select =>
    obtain rfl := Option.some.inj h
    exact .select rfl rfl (fun _ ↦ Diagnostic.not_mem_of_mem_optionsOf) rfl
  | slider =>
    obtain rfl := Option.some.inj h
    exact .slider rfl (Diagnostic.not_mem_position p.item.rest) rfl rfl

/-- The flat declarations of a text are those of a text, a selection or a slider. -/
theorem flatForm_of_mem_flats {t : Text} {d : Declaration} (hd : d ∈ flats t) : d.FlatForm := by
  rcases mem_flats_iff.mp hd with hd | ⟨b, -, hd⟩
  · obtain ⟨p, -, hp⟩ := List.mem_filterMap.mp hd
    exact flatForm_of_ofDirective? hp
  · obtain ⟨p, -, hp⟩ := List.mem_filterMap.mp hd
    exact flatForm_of_ofDirective? hp

/-- Offering the single empty option or none is the same once options are joined. -/
theorem join_offered (options : List Text) :
    Text.join ['|'] (offered options) = Text.join ['|'] options := by
  rw [offered]
  split
  · rename_i heq
    rw [heq]
    rfl
  · rfl

/-- The options that there are to choose from can be read off the options put together. -/
theorem offered_eq {options : List Text} (h : ∀ o ∈ options, '|' ∉ o) : offered options =
    if Text.join ['|'] options = [] then [] else (Text.join ['|'] options).splitOn '|' := by
  by_cases hnil : options = []
  · rw [hnil]
    rfl
  · rw [Text.splitOn_join h hnil, offered]
    by_cases hempty : options = [[]]
    · rw [hempty]
      rfl
    · have hjoin : Text.join ['|'] options ≠ [] := by
        intro hjoin
        have hsplit := Text.splitOn_join h hnil
        rw [hjoin] at hsplit
        exact hempty hsplit.symm
      rw [if_neg hempty, if_neg hjoin]

theorem headD_offered (options : List Text) :
    (offered options).headD [] = options.headD [] := by
  rw [offered]
  split
  · rename_i heq
    rw [heq]
    rfl
  · rfl

end Declaration

namespace Diagnostic

open Declaration

/-! ### Signatures -/

/-- The signatures of flat declarations of one kind are the same if they state the same. -/
theorem signature_eq_iff {d d' : Declaration} (hd : d.FlatForm) (hd' : d'.FlatForm)
    (hkind : d.kind = d'.kind) : signature d = signature d' ↔ d.stated = d'.stated := by
  cases hd with
  | text hk hoptions hrange =>
    cases hd' with
    | text hk' hoptions' hrange' =>
      simp only [signature, hk, hk', stated, hoptions, hoptions', hrange, hrange', Prod.mk.injEq,
        and_true]
    | select hk' => cases hk.symm.trans (hkind.trans hk')
    | slider hk' => cases hk.symm.trans (hkind.trans hk')
  | select hk hdefault hoptions hrange =>
    cases hd' with
    | text hk' => cases hk.symm.trans (hkind.trans hk')
    | select hk' hdefault' hoptions' hrange' =>
      have hoffered : signature d = signature d' ↔ offered d.options = offered d'.options := by
        simp only [signature, hk, hk']
        refine ⟨fun h ↦ ?_, fun h ↦ ?_⟩
        · rw [offered_eq hoptions, offered_eq hoptions', h]
        · rw [← join_offered d.options, h, join_offered]
      rw [hoffered, stated, stated, hrange, hrange', hdefault, hdefault', ← headD_offered,
        ← headD_offered d'.options]
      refine ⟨fun h ↦ by rw [h], fun h ↦ (Prod.mk.inj (Prod.mk.inj h).2).1⟩
    | slider hk' => cases hk.symm.trans (hkind.trans hk')
  | @slider range hk hdefault hoptions hrange =>
    cases hd' with
    | text hk' => cases hk.symm.trans (hkind.trans hk')
    | select hk' => cases hk.symm.trans (hkind.trans hk')
    | @slider range' hk' hdefault' hoptions' hrange' =>
      simp only [signature, hk, hk', hrange, hrange', stated, hoptions, hoptions',
        List.append_assoc, List.cons_append, Prod.mk.injEq, Option.some.injEq, true_and]
      constructor
      · intro h
        have hcolon : ∀ n : Int, ':' ∉ Integer.text n := fun n hc ↦
          (Integer.plain_of_mem_text hc).2 List.mem_cons_self
        obtain ⟨hposition, hbounds⟩ := Text.eq_of_append_cons_eq hdefault hdefault' h
        obtain ⟨hmin, hmax⟩ := Text.eq_of_append_cons_eq (hcolon _) (hcolon _) hbounds
        have hrange := congrArg₂ SliderRange.mk (Integer.text_injective hmin)
          (Integer.text_injective hmax)
        exact ⟨hposition, hrange⟩
      · rintro ⟨hposition, rfl⟩
        rw [hposition]

/-! ### Conflicts -/

/-- Whether a flat control is the first one of the control of a declaration in a text. -/
structure IsFirstOf (t : Text) (d first : Declaration) : Prop where
  mem : first ∈ flats t
  key_eq : first.key = d.key
  start_le : ∀ other ∈ flats t, other.key = d.key → first.span.start ≤ other.span.start

/-- The conflicts that are reported at a place. -/
def conflictsAt (t : Text) (s : Span) : List Diagnostic :=
  (findingsAt t s).filter (·.finding.isConflict)

variable {t : Text}

/-- A control has one first declaration. -/
theorem IsFirstOf.unique {d first first' : Declaration} (h : IsFirstOf t d first)
    (h' : IsFirstOf t d first') : first = first' :=
  eq_of_mem_flats_of_start_eq h.mem h'.mem
    (Nat.le_antisymm (h.start_le _ h'.mem h'.key_eq) (h'.start_le _ h.mem h.key_eq))

/-- The first declaration that is found of a control is the first one in the text. -/
theorem exists_find?_isFirstOf {d : Declaration} (hd : d ∈ flats t) :
    ∃ first, (flatControls t).find? (sameControl d) = some first ∧ IsFirstOf t d first := by
  have hsome : ((flatControls t).find? (sameControl d)).isSome = true :=
    List.find?_isSome.mpr ⟨d, mem_flatControls_iff.mpr hd, sameControl_iff.mpr rfl⟩
  obtain ⟨first, hfirst⟩ := Option.isSome_iff_exists.mp hsome
  have hkey : d.key = first.key := sameControl_iff.mp (List.find?_some hfirst)
  have hsame : sameControl d = sameControl first := by
    funext other
    simp only [sameControl, hkey]
  have hsorted : (flatControls t).Pairwise fun c d ↦ c.span.start ≤ d.span.start :=
    pairwise_sortBy_le (fun d : Declaration ↦ d.span.start) _
  refine ⟨first, hfirst, mem_flatControls_iff.mp (List.mem_of_find?_eq_some hfirst), hkey.symm,
    fun other hother hkey' ↦ ?_⟩
  rw [hsame] at hfirst
  exact start_le_of_find?_eq_some hsorted hfirst (mem_flatControls_iff.mpr hother)
    (hkey'.trans hkey)

/-- Only redeclarations are conflicts. -/
theorem conflictsAt_eq (t : Text) (s : Span) :
    conflictsAt t s = (redeclarations t).filter (·.span == s) := by
  have hnone : ∀ fs : List Diagnostic, (∀ f ∈ fs, f.finding.isConflict = false) →
      (fs.filter (·.span == s)).filter (·.finding.isConflict) = [] := by
    intro fs hfs
    refine List.filter_eq_nil_iff.mpr fun f hf ↦ ?_
    rw [hfs f (List.mem_of_mem_filter hf)]
    exact Bool.false_ne_true
  have hopening : ∀ f ∈ openingTags t, f.finding.isConflict = false := by
    intro f hf
    obtain ⟨p, -, -, rfl⟩ := mem_openingTags_iff.mp hf
    dsimp only [openingFinding]
    split <;> rfl
  have hclosing : ∀ f ∈ closingTags t, f.finding.isConflict = false := by
    intro f hf
    obtain ⟨p, -, -, rfl⟩ := mem_closingTags_iff.mp hf
    rfl
  have hunknown : ∀ f ∈ unknownKinds t, f.finding.isConflict = false := by
    intro f hf
    obtain ⟨d, -, -, rfl⟩ := mem_unknownKinds_iff.mp hf
    rfl
  rw [conflictsAt, findingsAt_eq, List.filter_append, List.filter_append, List.filter_append,
    hnone _ hopening, hnone _ hclosing, hnone _ hunknown, List.nil_append]
  refine List.filter_eq_self.mpr fun f hf ↦ ?_
  obtain ⟨d, -, first, -, -, rfl⟩ := mem_redeclarationsAfter_iff.mp (List.mem_of_mem_filter hf)
  rfl

theorem span_of_redeclaration? {ds : List Declaration} {d : Declaration} {f : Diagnostic}
    (h : redeclaration? ds d = some f) : f.span = d.span := by
  obtain ⟨first, -, h⟩ := Option.bind_eq_some_iff.mp h
  rw [Option.ite_none_left_eq_some, Option.some.injEq] at h
  rw [← h.2]
  rfl

theorem nodup_flatControls (t : Text) : (flatControls t).Nodup := by
  have hflats : (flats t).Nodup :=
    ((pairwise_start_written t).sublist (List.sublist_append_right _ _)).imp
      fun hne heq ↦ hne (congrArg (·.span.start) heq)
  exact (sortBy_perm _ _).nodup_iff.mpr hflats

/-- At the place of a flat control a conflict is reported if it states something else than the first
one of its kind and name. -/
theorem conflictsAt_span {d first : Declaration} (hd : d ∈ flats t) (hfirst : IsFirstOf t d first) :
    conflictsAt t d.span =
      if first.stated = d.stated then [] else [redeclarationFinding first d] := by
  obtain ⟨first', hfind, hfirst'⟩ := exists_find?_isFirstOf hd
  obtain rfl := hfirst.unique hfirst'
  have hdiagnostic : redeclaration? (flatControls t) d =
      if first.stated = d.stated then none else some (redeclarationFinding first d) := by
    have hsignature := signature_eq_iff (flatForm_of_mem_flats hfirst.mem)
      (flatForm_of_mem_flats hd) (Prod.mk.inj hfirst.key_eq).1
    rw [redeclaration?, hfind, Option.bind_some]
    simp only [hsignature]
  have hother : ∀ d' ∈ flatControls t, d' ≠ d → ∀ f,
      redeclaration? (flatControls t) d' = some f → (f.span == d.span) = false := by
    intro d' hd' hne f hf
    rw [span_of_redeclaration? hf, beq_eq_false_iff_ne]
    intro hspan
    exact hne (eq_of_mem_flats_of_start_eq (mem_flatControls_iff.mp hd') hd
      (congrArg Span.start hspan))
  rw [conflictsAt_eq, redeclarations, redeclarationsAfter_eq, List.nil_append,
    filter_filterMap_of_mem (nodup_flatControls t) (mem_flatControls_iff.mpr hd)
      (fun f hf ↦ beq_iff_eq.mpr (span_of_redeclaration? hf)) hother, hdiagnostic]
  split
  · rfl
  · rfl

/-- Whether the conflicts that are reported of a text are the flat controls that state something
else than the first ones of their kind and name, each of them once and with what both state. -/
structure ReportsConflicts (t : Text) : Prop where
  isReported_iff : ∀ s, (∃ f ∈ ofText t, f.finding.isConflict = true ∧ f.span = s) ↔
    ∃ d ∈ flats t, d.span = s ∧ ∃ first, IsFirstOf t d first ∧ first ≠ d ∧ first.stated ≠ d.stated
  conflictsAt_eq : ∀ d ∈ flats t, ∀ first, IsFirstOf t d first → first.stated ≠ d.stated →
    conflictsAt t d.span = [redeclarationFinding first d]

/-- Conflicts are reported exactly where a flat control states something else than the first one of
its kind and name. -/
theorem reportsConflicts (t : Text) : ReportsConflicts t where
  isReported_iff s := by
    constructor
    · rintro ⟨f, hf, hconflict, rfl⟩
      have hmem : f ∈ redeclarations t := by
        have hat : f ∈ conflictsAt t f.span :=
          List.mem_filter.mpr ⟨List.mem_filter.mpr ⟨hf, beq_self_eq_true _⟩, hconflict⟩
        rw [conflictsAt_eq] at hat
        exact List.mem_of_mem_filter hat
      obtain ⟨d, hd, first, hfind, hne, rfl⟩ := mem_redeclarationsAfter_iff.mp hmem
      have hd := mem_flatControls_iff.mp hd
      obtain ⟨first', hfind', hfirst⟩ := exists_find?_isFirstOf hd
      obtain rfl : first = first' := Option.some.inj (hfind.symm.trans hfind')
      refine ⟨d, hd, rfl, first, hfirst, fun heq ↦ hne (by rw [heq]), fun hstated ↦ hne ?_⟩
      exact (signature_eq_iff (flatForm_of_mem_flats hfirst.mem) (flatForm_of_mem_flats hd)
        (Prod.mk.inj hfirst.key_eq).1).mpr hstated
    · rintro ⟨d, hd, rfl, first, hfirst, -, hne⟩
      have hat := conflictsAt_span hd hfirst
      rw [if_neg hne] at hat
      have hmem : redeclarationFinding first d ∈ conflictsAt t d.span := by
        rw [hat]
        exact List.mem_singleton_self _
      obtain ⟨hmem, hconflict⟩ := List.mem_filter.mp hmem
      exact ⟨_, List.mem_of_mem_filter hmem, hconflict, rfl⟩
  conflictsAt_eq d hd first hfirst hne := by rw [conflictsAt_span hd hfirst, if_neg hne]

/-- Nothing is reported here, and the second select lists an option where the first one lists
none. -/
theorem not_reported_emptyOption : ∃ first d,
    flats "{{select:S}}{{select:S:}}".toList = [first, d] ∧
      IsFirstOf "{{select:S}}{{select:S:}}".toList d first ∧ first.span ≠ d.span ∧
        first.payload ≠ d.payload ∧ ofText "{{select:S}}{{select:S:}}".toList = [] := by
  have hflats : flats "{{select:S}}{{select:S:}}".toList =
      [single .select ['S'] ⟨0, 12⟩, { single .select ['S'] ⟨12, 25⟩ with options := [[]] }] := by
    rfl
  refine ⟨_, _, hflats, ⟨?_, rfl, ?_⟩, by decide, by decide, by decide⟩
  · rw [hflats]
    exact List.mem_cons_self
  · intro other _ _
    exact Nat.zero_le _

end Diagnostic

end PromptTemplate
