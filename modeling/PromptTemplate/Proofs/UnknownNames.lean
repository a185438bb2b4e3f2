import Mathlib.Algebra.Order.Field.Basic
import Mathlib.Data.List.Induction
import Mathlib.Data.List.Forall2
import Mathlib.Tactic.Linarith
import PromptTemplate.Proofs.DistinctControls
import PromptTemplate.Proofs.EditDistance
import PromptTemplate.Proofs.ValuePrecedence

/-!
Warnings of names that no control has. The known name that is looked for among the similar ones
comes out of a single pass, which always holds the last of the most similar names so far
(`Suggests`, `suggests_concat`), and comparing differences as fractions is comparing similarities in
reverse (`le_difference_iff`). A request that succeeds warns of the names of its values file and of
its own values that no control of the template has, at the top or inside of a toggle, in their
order, and whatever the configuration says makes no difference (`warns_of_unknown_names`).
-/

set_option autoImplicit false
set_option relaxedAutoImplicit false

namespace PromptTemplate

namespace Suggestion

/-- The least number of edits between two names in lower case. -/
noncomputable def edits (name known : Text) : Nat :=
  Text.leastEdits (Text.lowercase name) (Text.lowercase known)

/-- The number of characters of the longer one of two names in lower case. -/
def longer (name known : Text) : Nat :=
  max (Text.lowercase name).length (Text.lowercase known).length

/-- Whether no more than half of the longer name has to be edited. -/
def IsSimilar (name known : Text) : Prop := 2 * edits name known ≤ longer name known

/-- The part of the longer one of two names that can stay, all of it if both are empty. -/
noncomputable def similarity (name known : Text) : ℚ :=
  if longer name known = 0 then 1 else 1 - edits name known / longer name known

/-- Which of the names that are known, if any, may be meant by a name: one that is similar, and the
last of the most similar of all. -/
inductive Suggests (known : List Text) (name : Text) : Option Text → Prop
  | nothing (unlike : ∀ other ∈ known, ¬IsSimilar name other) : Suggests known name none
  | nearest (before : List Text) (best : Text) (after : List Text)
      (split : known = before ++ best :: after) (similar : IsSimilar name best)
      (le : ∀ other ∈ before, similarity name other ≤ similarity name best)
      (lt : ∀ other ∈ after, similarity name other < similarity name best) :
      Suggests known name (some best)

variable {name a b : Text} {known : List Text}

theorem edits_eq_zero (h : longer name a = 0) : edits name a = 0 := by
  obtain ⟨hname, ha⟩ := Nat.max_eq_zero_iff.mp h
  rw [edits, Text.leastEdits_eq, List.eq_nil_of_length_eq_zero hname,
    List.eq_nil_of_length_eq_zero ha]
  rfl

/-- The similarity is one less the edits over the length of the longer name. -/
theorem similarity_eq (name a : Text) :
    similarity name a = 1 - edits name a / (max (longer name a) 1 : Nat) := by
  rw [similarity]
  split
  · rename_i h
    rw [edits_eq_zero h, Nat.cast_zero, zero_div, sub_zero]
  · rename_i h
    rw [max_eq_left (Nat.one_le_iff_ne_zero.mpr h)]

theorem isSimilar_iff : IsSimilar name a ↔ 1 / 2 ≤ similarity name a := by
  rw [IsSimilar, similarity]
  split
  · rename_i h
    rw [edits_eq_zero h, h]
    norm_num
  · rename_i h
    have hpos : (0 : ℚ) < longer name a := Nat.cast_pos.mpr (Nat.pos_of_ne_zero h)
    have hhalf : (1 : ℚ) / 2 ≤ 1 - edits name a / longer name a ↔
        (edits name a : ℚ) / longer name a ≤ 1 / 2 := by
      constructor <;> intro <;> linarith
    rw [hhalf, div_le_div_iff₀ hpos two_pos, mul_comm, one_mul]
    exact_mod_cast Iff.rfl

/-- A difference is small exactly if the names are similar. -/
theorem isSmall_difference_iff : (difference name a).isSmall = true ↔ IsSimilar name a := by
  rw [Difference.isSmall, decide_eq_true_eq, IsSimilar, edits, Text.leastEdits_eq]
  rfl

/-- A difference is the smaller the greater the similarity is. -/
theorem le_difference_iff : (difference name a).le (difference name b) = true ↔
    similarity name b ≤ similarity name a := by
  have hpos (other : Text) : (0 : ℚ) < (max (longer name other) 1 : Nat) :=
    Nat.cast_pos.mpr (Nat.lt_of_lt_of_le Nat.one_pos (Nat.le_max_right _ _))
  rw [similarity_eq, similarity_eq, sub_le_sub_iff_left, div_le_div_iff₀ (hpos a) (hpos b),
    ← Nat.cast_mul, ← Nat.cast_mul, Nat.cast_le, Difference.le, decide_eq_true_eq, edits, edits,
    Text.leastEdits_eq, Text.leastEdits_eq]
  rfl

/-- What is suggested when another known name comes after the others. -/
def better (name : Text) (best : Option Text) (candidate : Text) : Option Text :=
  if !(difference name candidate).isSmall then best
  else
    match best with
    | none => some candidate
    | some least =>
      if (difference name candidate).le (difference name least) then some candidate else best

theorem better_of_not_isSimilar (h : ¬IsSimilar name a) (best : Option Text) :
    better name best a = best := by
  have hsmall := isSmall_difference_iff.not.mpr h
  simp [better, hsmall]

theorem better_none (h : IsSimilar name a) : better name none a = some a := by
  have hsmall := isSmall_difference_iff.mpr h
  simp [better, hsmall]

/-- A name that is similar enough takes the place of the best one so far unless it is less similar.
-/
theorem better_some (h : IsSimilar name a) (best : Text) : better name (some best) a =
    if similarity name best ≤ similarity name a then some a else some best := by
  have hsmall := isSmall_difference_iff.mpr h
  simp [better, hsmall, le_difference_iff]

/-- The difference that is kept beside the best name is that of the name. -/
theorem nearest?_eq (name : Text) (known : List Text) :
    nearest? name known = known.foldl (better name) none := by
  let pair (best : Text) : Text × Difference := (best, difference name best)
  unfold nearest?
  refine (congrArg (Option.map (·.1)) (@List.foldl_hom _ _ _ (Option.map pair) (better name) _ known
    none ?_)).trans ?_
  · intro best a
    unfold better
    cases best with
    | none =>
      dsimp only [Option.map_none]
      split <;> rfl
    | some least =>
      dsimp only [Option.map_some]
      split
      · rfl
      · dsimp only [pair]
        split <;> rfl
  · rw [Option.map_map]
    exact Option.map_id'

/-- One more known name leaves a suggestion of the last of the most similar ones. -/
theorem suggests_concat {best : Option Text} (h : Suggests known name best) (a : Text) :
    Suggests (known ++ [a]) name (better name best a) := by
  have hlt {other k : Text} (hother : ¬IsSimilar name other) (hk : IsSimilar name k) :
      similarity name other < similarity name k :=
    (not_le.mp (isSimilar_iff.not.mp hother)).trans_le (isSimilar_iff.mp hk)
  by_cases ha : IsSimilar name a
  · cases h with
    | nothing unlike =>
      rw [better_none ha]
      exact .nearest known a [] rfl ha (fun other hother ↦ (hlt (unlike other hother) ha).le) nofun
    | nearest before best after split similar le lt =>
      rw [better_some ha]
      split_ifs with hle
      · have hall : ∀ other ∈ known, similarity name other ≤ similarity name best := by
          rw [split]
          simp only [List.mem_append, List.mem_cons]
          rintro other (hother | rfl | hother)
          · exact le other hother
          · exact le_rfl
          · exact (lt other hother).le
        exact .nearest known a [] rfl ha (fun other hother ↦ (hall other hother).trans hle) nofun
      · exact .nearest before best (after ++ [a]) (by simp [split]) similar le
          (List.forall_mem_append.mpr ⟨lt, List.forall_mem_singleton.mpr (not_le.mp hle)⟩)
  · rw [better_of_not_isSimilar ha]
    cases h with
    | nothing unlike =>
      exact .nothing (List.forall_mem_append.mpr ⟨unlike, List.forall_mem_singleton.mpr ha⟩)
    | nearest before best after split similar le lt =>
      exact .nearest before best (after ++ [a]) (by simp [split]) similar le
        (List.forall_mem_append.mpr ⟨lt, List.forall_mem_singleton.mpr (hlt ha similar)⟩)

/-- The pass goes from the front, so the induction is on what it has seen, which grows at the end.
-/
theorem suggests_nearest? (name : Text) (known : List Text) :
    Suggests known name (nearest? name known) := by
  rw [nearest?_eq]
  induction known using List.reverseRecOn with
  | nil => exact .nothing nofun
  | append_singleton known a ih =>
    rw [List.foldl_concat]
    exact suggests_concat ih a

end Suggestion

namespace RenderRequest

/-- The names that no control of a text has, wherever in the text it is written. -/
def unknown (t : Text) (names : List Text) : List Text :=
  names.filter fun name ↦ ∀ written ∈ Declaration.written t, written.name ≠ name

/-- Whether a text is the warning of a name when some names are known. -/
def Warns (known : List Text) (name text : Text) : Prop :=
  ∃ suggestion, Suggestion.Suggests known name suggestion ∧
    text = "No control named '".toList ++ name ++ "' in the template".toList ++
      suggestion.elim [] fun best ↦ " (did you mean '".toList ++ best ++ "'?)".toList

/-- The warning about a name tells of it, with the suggestion if there is one. -/
theorem warns_warning (known : List Text) (name : Text) :
    Warns known name (warning known name) := by
  have hsuggests := Suggestion.suggests_nearest? name known
  cases hbest : Suggestion.nearest? name known with
  | none =>
    rw [hbest] at hsuggests
    refine ⟨none, hsuggests, ?_⟩
    unfold warning
    rw [hbest, Option.elim_none]
  | some best =>
    rw [hbest] at hsuggests
    refine ⟨some best, hsuggests, ?_⟩
    unfold warning
    rw [hbest, Option.elim_some]

/-- The names of the distinct controls of a text are those of all that is written in it. -/
theorem mem_names_distinct_ofText {t name : Text} :
    name ∈ (Declaration.distinct (Declaration.ofText t)).map (·.name) ↔
      ∃ written ∈ Declaration.written t, written.name = name := by
  rw [List.mem_map]
  constructor
  · rintro ⟨c, hc, rfl⟩
    obtain ⟨w, hw, hkey, -⟩ := Declaration.carriesEarliest_distinct_ofText hc
    exact ⟨w, hw, congrArg Prod.snd hkey⟩
  · rintro ⟨w, hw, rfl⟩
    obtain ⟨c, hc, hkey⟩ := Declaration.exists_mem_distinct_ofText hw
    exact ⟨c, hc, congrArg Prod.snd hkey⟩

/-- Each name that no control has is warned of in its turn. -/
theorem warns_warnings (t : Text) (names : List Text) :
    List.Forall₂ (Warns ((Declaration.distinct (Declaration.ofText t)).map (·.name)))
      (unknown t names) (warnings (Declaration.ofText t) names) := by
  have hunknown : names.filter (fun name ↦
      !((Declaration.distinct (Declaration.ofText t)).map (·.name)).contains name) =
        unknown t names := by
    refine List.filter_congr fun name _ ↦ ?_
    rw [Bool.eq_iff_iff, Bool.not_eq_true', ← Bool.not_eq_true, List.contains_iff_mem,
      mem_names_distinct_ofText, decide_eq_true_eq]
    simp only [not_exists, not_and]
  rw [warnings, hunknown, List.forall₂_map_right_iff, List.forall₂_same]
  exact fun name _ ↦ warns_warning _ name

theorem names_pairwise (m : ValueMap) : m.names.Pairwise (· < ·) :=
  List.pairwise_map.mpr m.ascending

variable {env env' : Environment} {configPath configPath' : Option Text} {r r' : RenderRequest}
  {outcome outcome' : Outcome}

/-- The warnings of a request that succeeds are those of what it has read. -/
theorem exists_warnings (hrun : r.run env configPath = .ok outcome) (h : outcome.fault = none) :
    ∃ p, r.prepare env configPath = .ok p ∧ outcome.warnings =
      warnings (Declaration.ofText p.template) (p.filed.names ++ p.given.names) := by
  obtain ⟨p, -, hp, -, -, hwarnings⟩ := exists_prepared hrun h
  exact ⟨p, hp, hwarnings⟩

/-- What the configuration says makes no difference to the warnings. -/
theorem warnings_eq (hinput : env.readTemplate r.input = env'.readTemplate r'.input)
    (hfiled : r.filedValues env.files = r'.filedValues env'.files)
    (hgiven : r.givenValues = r'.givenValues)
    (hrun : r.run env configPath = .ok outcome) (h : outcome.fault = none)
    (hrun' : r'.run env' configPath' = .ok outcome') (h' : outcome'.fault = none) :
    outcome'.warnings = outcome.warnings := by
  obtain ⟨p, hp, hwarnings⟩ := exists_warnings hrun h
  obtain ⟨p', hp', hwarnings'⟩ := exists_warnings hrun' h'
  obtain ⟨htemplate, -, hread, hown⟩ := exists_of_prepare hp
  obtain ⟨htemplate', -, hread', hown'⟩ := exists_of_prepare hp'
  have heq : p'.template = p.template ∧ p'.filed = p.filed ∧ p'.given = p.given :=
    ⟨Except.ok.inj (htemplate'.symm.trans (hinput.symm.trans htemplate)),
      Except.ok.inj (hread'.symm.trans (hfiled.symm.trans hread)),
      Except.ok.inj (hown'.symm.trans (hgiven.symm.trans hown))⟩
  rw [hwarnings, hwarnings', heq.1, heq.2.1, heq.2.2]

/-- A request that succeeds warns of the names of its values file, in ascending order, and then of
those it gives itself, in ascending order, and just of those that no control of its template has.
Whatever the configuration says, also if it is ignored, the warnings are these. -/
theorem warns_of_unknown_names (env : Environment) (configPath : Option Text) (r : RenderRequest) :
    ∃ outcome, r.run env configPath = .ok outcome ∧ (outcome.fault = none →
      (∃ template filed given, env.readTemplate r.input = .ok template ∧
        r.filedValues env.files = .ok filed ∧ r.givenValues = .ok given ∧
          filed.names.Pairwise (· < ·) ∧ given.names.Pairwise (· < ·) ∧
          List.Forall₂ (Warns ((Declaration.distinct (Declaration.ofText template)).map (·.name)))
            (unknown template (filed.names ++ given.names)) outcome.warnings) ∧
      ∀ env' configPath' ignoresConfig, env.readTemplate r.input = env'.readTemplate r.input →
        r.filedValues env.files = r.filedValues env'.files →
          ∃ outcome', ({ r with ignoresConfig }).run env' configPath' = .ok outcome' ∧
            (outcome'.fault = none → outcome'.warnings = outcome.warnings)) := by
  obtain ⟨outcome, hrun⟩ := exists_run_eq env configPath r
  refine ⟨outcome, hrun, fun h ↦ ⟨?_, fun env' configPath' ignoresConfig hinput hfiled ↦ ?_⟩⟩
  · obtain ⟨p, hp, hwarnings⟩ := exists_warnings hrun h
    obtain ⟨htemplate, -, hfiled, hgiven⟩ := exists_of_prepare hp
    rw [hwarnings]
    exact ⟨p.template, p.filed, p.given, htemplate, hfiled, hgiven, names_pairwise p.filed,
      names_pairwise p.given, warns_warnings p.template _⟩
  · obtain ⟨outcome', hrun'⟩ := exists_run_eq env' configPath' { r with ignoresConfig }
    have hread : env.readTemplate r.input =
        env'.readTemplate ({ r with ignoresConfig } : RenderRequest).input := hinput
    exact ⟨outcome', hrun', fun h' ↦ warnings_eq hread hfiled rfl hrun h hrun' h'⟩

/-- A template with a values file and a configuration beside it, each with a name that no control of
the template has. One of them is equally similar to two controls, the second of which is inside of a
toggle. -/
def unknownNames : Environment :=
  { files := ⟨⟨[
      (["t".toList], .file (.text "{{text:Ab}}{{toggle:E}}{{text:Ac}}{{/toggle:E}}".toList)),
      (["v.toml".toList], .file (.text "Ac = 1\nad = 2".toList)),
      (["c".toList], .file (.text "[values]\nU = 3".toList))]⟩, []⟩
    home := none
    input := .text [] }

/-- A request that gives a value to a name that no control is similar to. -/
def withUnknownName : RenderRequest :=
  { input := "t".toList
    assignments := ["Zz=4".toList]
    enabled := [" E".toList]
    disabled := []
    valuesFile := some "v.toml".toList
    ignoresConfig := false
    output := none }

theorem warns_of_unknown_names_equallySimilar :
    ∃ outcome, withUnknownName.run unknownNames (some "c".toList) = .ok outcome ∧
      outcome.fault = none ∧
      outcome.warnings =
        ["No control named 'ad' in the template (did you mean 'Ac'?)".toList,
          "No control named 'Zz' in the template".toList] ∧
      (∃ template filed given,
        unknownNames.readTemplate withUnknownName.input = .ok template ∧
          withUnknownName.filedValues unknownNames.files = .ok filed ∧
          withUnknownName.givenValues = .ok given ∧
          filed.names.Pairwise (· < ·) ∧ given.names.Pairwise (· < ·) ∧
          List.Forall₂ (Warns ((Declaration.distinct (Declaration.ofText template)).map (·.name)))
            (unknown template (filed.names ++ given.names)) outcome.warnings) ∧
      ∃ outcome', ({ withUnknownName with ignoresConfig := true }).run unknownNames none =
        .ok outcome' ∧ (outcome'.fault = none → outcome'.warnings = outcome.warnings) := by
  obtain ⟨outcome, hrun, hwarns⟩ :=
    warns_of_unknown_names unknownNames (some "c".toList) withUnknownName
  have hends : (withUnknownName.run unknownNames (some "c".toList)).map
      (fun outcome ↦ (outcome.fault, outcome.warnings)) =
        .ok (none, ["No control named 'ad' in the template (did you mean 'Ac'?)".toList,
          "No control named 'Zz' in the template".toList]) := by
    decide +kernel
  rw [hrun] at hends
  obtain ⟨hfault, hwarnings⟩ := Prod.mk.inj (Except.ok.inj hends)
  obtain ⟨hexact, hsame⟩ := hwarns hfault
  exact ⟨outcome, hrun, hfault, hwarnings, hexact, hsame _ none true rfl rfl⟩

end RenderRequest

end PromptTemplate
