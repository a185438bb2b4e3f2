import PromptTemplate.Proofs.FillingIn
import PromptTemplate.Proofs.Findings
import PromptTemplate.Proofs.TextParts

/-!
A text without conflicting defaults renders as it is written. What is compared of two declarations
of one control are their signatures, and a signature of a kind begins with the default
(`statedDefault_signature`): the options of a select hold no bar and the position of a slider no
colon. So where nothing is reported all declarations of a control state one default
(`defaultValue_eq_of_consistent`), and it does not matter whose default is filled in: rendering the
text fills in each place with the default that is written there
(`render_ofText_eq_filledIn_written`).
-/

set_option autoImplicit false
set_option relaxedAutoImplicit false

namespace PromptTemplate

/-! ### The default that a signature begins with -/

namespace Diagnostic

/-- The default that a signature of a kind begins with. -/
def statedDefault : Kind → Text → Text
  | .select, signature => signature.takeWhile (· != '|')
  | .slider, signature => signature.takeWhile (· != ':')
  | .text, signature | .toggle, signature => signature

/-- The first of several options stands before the first bar. -/
theorem takeWhile_join_options {options : List Text} (h : ∀ o ∈ options, '|' ∉ o) :
    (Text.join ['|'] options).takeWhile (· != '|') = options.headD [] := by
  match options with
  | [] => rfl
  | [option] => exact Text.takeWhile_bne_eq_self (h option List.mem_cons_self)
  | option :: next :: more =>
    rw [Text.join, List.append_assoc]
    · exact Text.takeWhile_bne_append (h option List.mem_cons_self) _
    · exact List.cons_ne_nil _ _

/-- No option has the mark in it that parts options. -/
theorem not_mem_of_mem_optionsOf {rest : Option Text} {option : Text}
    (h : option ∈ Declaration.optionsOf rest) : '|' ∉ option := by
  cases rest with
  | none => cases h
  | some rest => exact Text.not_mem_of_mem_map_trim_splitOn h

/-- The position of a slider has no colon in it, so its bounds can be told from it. -/
theorem not_mem_position (rest : Option Text) : ':' ∉ (Declaration.sliderOf rest).1 := by
  have hstandard : ':' ∉ Declaration.standardPosition := by decide
  cases rest with
  | none => exact hstandard
  | some rest =>
    unfold Declaration.sliderOf
    dsimp only
    split
    · exact hstandard
    · rename_i first more heq
      split
      · exact hstandard
      · exact Text.not_mem_of_mem_map_trim_splitOn (heq ▸ List.mem_cons_self)

/-- The signature of a directive's declaration begins with its default. -/
theorem statedDefault_signature {p : Placed Directive} {d : Declaration}
    (h : Declaration.ofDirective? p = some d) :
    statedDefault d.kind (signature d) = d.defaultValue := by
  obtain ⟨kind, -, h⟩ := Option.bind_eq_some_iff.mp h
  cases kind with
  | toggle => cases h
  | text =>
    obtain rfl := Option.some.inj h
    rfl
  | select =>
    obtain rfl := Option.some.inj h
    exact takeWhile_join_options fun _ ↦ not_mem_of_mem_optionsOf
  | slider =>
    obtain rfl := Option.some.inj h
    simp only [signature, List.append_assoc, List.cons_append]
    exact Text.takeWhile_bne_append (not_mem_position p.item.rest) _

/-- The default of a flat declaration can be told from its signature. -/
theorem statedDefault_signature_of_mem_flats {t : Text} {d : Declaration}
    (hd : d ∈ Declaration.flats t) : statedDefault d.kind (signature d) = d.defaultValue := by
  rcases Declaration.mem_flats_iff.mp hd with hd | ⟨b, -, hd⟩
  · obtain ⟨p, -, hp⟩ := List.mem_filterMap.mp hd
    exact statedDefault_signature hp
  · obtain ⟨p, -, hp⟩ := List.mem_filterMap.mp hd
    exact statedDefault_signature hp

/-! ### Texts without conflicts -/

end Diagnostic

/-- Whether a finding is about a control that is declared again in another way. -/
def Finding.isConflict : Finding → Bool
  | .conflictingDefaults .. => true
  | .unclosedToggle _ | .orphanToggleClose _ | .nestedToggle _ _ | .unknownKind _ _ => false

namespace Diagnostic

variable {t : Text}

/-- The declarations that are compared are the flat ones, inside and outside of blocks. -/
theorem mem_flatControls_iff {d : Declaration} :
    d ∈ flatControls t ↔ d ∈ Declaration.flats t := mem_sortBy

/-- Where no conflict is reported, every flat control states what the first one of its kind and
name does. -/
theorem exists_first_of_consistent (h : ∀ f ∈ ofText t, f.finding.isConflict = false)
    {d : Declaration} (hd : d ∈ Declaration.flats t) :
    ∃ first, (flatControls t).find? (Declaration.sameControl d) = some first ∧
      signature first = signature d := by
  have hmem : d ∈ flatControls t := mem_flatControls_iff.mpr hd
  have hsome : ((flatControls t).find? (Declaration.sameControl d)).isSome = true :=
    List.find?_isSome.mpr ⟨d, hmem, Declaration.sameControl_iff.mpr rfl⟩
  obtain ⟨first, hfirst⟩ := Option.isSome_iff_exists.mp hsome
  refine ⟨first, hfirst, ?_⟩
  by_contra hne
  have hreported : redeclarationFinding first d ∈ ofText t :=
    mem_ofText_iff.mpr (Or.inr (Or.inr (Or.inr
      (mem_redeclarationsAfter_iff.mpr ⟨d, hmem, first, hfirst, hne, rfl⟩))))
  exact Bool.noConfusion (h _ hreported)

/-- Where no conflict is reported, all flat controls of one kind and name state one default. -/
theorem defaultValue_eq_of_consistent (h : ∀ f ∈ ofText t, f.finding.isConflict = false)
    {c d : Declaration} (hc : c ∈ Declaration.flats t) (hd : d ∈ Declaration.flats t)
    (hkey : c.key = d.key) : c.defaultValue = d.defaultValue := by
  obtain ⟨first, hfirst, hsame⟩ := exists_first_of_consistent h hc
  obtain ⟨first', hfirst', hsame'⟩ := exists_first_of_consistent h hd
  have hsameControl : Declaration.sameControl c = Declaration.sameControl d := by
    funext other
    simp only [Declaration.sameControl, hkey]
  obtain rfl : first = first' := by
    rw [hsameControl, hfirst'] at hfirst
    exact (Option.some.inj hfirst).symm
  have hkind : c.kind = d.kind := (Prod.mk.inj hkey).1
  rw [← statedDefault_signature_of_mem_flats hc, ← statedDefault_signature_of_mem_flats hd, hkind,
    ← hsame, hsame']

end Diagnostic

namespace Rendering

open Declaration

variable {t : Text}

/-- Where no conflict is reported, what stands for a control is what its own place says. -/
theorem filling_eq_written_of_consistent
    (h : ∀ f ∈ Diagnostic.ofText t, f.finding.isConflict = false) (values : ValueMap)
    {d : Declaration} (hd : d ∈ flats t) : filling t values d = written values d := by
  have hself : d ∈ (flats t).filter (sameControl d) :=
    List.mem_filter.mpr ⟨hd, sameControl_iff.mpr rfl⟩
  have hdefault : defaultOf t d = d.defaultValue := by
    unfold defaultOf
    cases hmin : ((flats t).filter (sameControl d)).argmin (·.span.start) with
    | none => exact absurd (List.argmin_eq_none.mp hmin) (List.ne_nil_of_mem hself)
    | some first =>
      obtain ⟨hfirst, hsame⟩ := List.mem_filter.mp (List.argmin_mem hmin)
      exact Diagnostic.defaultValue_eq_of_consistent h hfirst hd (sameControl_iff.mp hsame).symm
  unfold filling written
  cases values.get? d.name with
  | some value => rfl
  | none => exact hdefault

/-- A text in which no control is declared again in another way renders as it is written: each flat
control gives way to its value or to the default at its own place. -/
theorem render_ofText_eq_filledIn_written
    (h : ∀ f ∈ Diagnostic.ofText t, f.finding.isConflict = false) (values : ValueMap) :
    render t (ofText t) values = .ok (filledIn (written values) values t) := by
  rw [render_ofText_eq_filledIn,
    filledIn_congr fun _ ↦ filling_eq_written_of_consistent h values]

/-- The two places of a name state one default, inside of a block and outside. -/
theorem render_ofText_eq_filledIn_written_twice :
    render "{{toggle:T}}{{text:A:x}}{{/toggle:T}}{{text:A: x}}".toList
        (ofText "{{toggle:T}}{{text:A:x}}{{/toggle:T}}{{text:A: x}}".toList) ⟨[], .nil⟩ =
      .ok (filledIn (written ⟨[], .nil⟩) ⟨[], .nil⟩
        "{{toggle:T}}{{text:A:x}}{{/toggle:T}}{{text:A: x}}".toList) :=
  render_ofText_eq_filledIn_written (by decide) ⟨[], .nil⟩

end Rendering

end PromptTemplate
