import PromptTemplate.Command.Environment
import PromptTemplate.Proofs.FirstAppearances
import PromptTemplate.Proofs.FirstFaults

/-!
Which inputs the arguments of a command stand for. An argument without a wild card stands for
itself, and a pattern for the files among the paths that it matches (`standsFor`); it can be
expanded if it is well-formed and matches a file (`Expands`), and is refused for one of two reasons
otherwise (`Refused`). What one argument stands for does not depend on the others
(`expandOne_eq_ok_iff`), so the arguments are expanded exactly if each of them can be, to all inputs
in their order, each at its first place; or else the fault is that of the first argument that is
refused (`expand_eq_ok_or_error_iff`).

Nothing is asked of the paths that a pattern matches or of which of them are files.
-/

set_option autoImplicit false
set_option relaxedAutoImplicit false

namespace PromptTemplate.Inputs

/-- Whether an argument has a wild card and is not what stands for the standard input. -/
def IsWild (argument : Text) : Prop :=
  argument ≠ standardInput ∧ ('*' ∈ argument ∨ '?' ∈ argument ∨ '[' ∈ argument)

instance decidablePredIsWild : DecidablePred IsWild := fun argument ↦
  inferInstanceAs (Decidable (argument ≠ standardInput ∧ _))

section

variable (paths : Text → Except Glob.PatternError (List Text)) (isFile : Text → Bool)

/-- The inputs that an argument stands for: itself, or the files among the paths that it matches. -/
def standsFor (argument : Text) : List Text :=
  if IsWild argument then
    match paths argument with
    | .ok found => found.filter isFile
    | .error _ => []
  else [argument]

/-- Whether an argument is no pattern, or one that is well-formed and matches a file. -/
def Expands (argument : Text) : Prop :=
  IsWild argument → ∃ found, paths argument = .ok found ∧ ∃ path ∈ found, isFile path = true

/-- What a pattern is refused for: it is not well-formed, or none of the paths that it matches is a
file. -/
inductive Refused (argument : Text) : Fault → Prop
  | invalid {e : Glob.PatternError} (hpaths : paths argument = .error e) :
      Refused argument ⟨.plain e.message, ["Invalid glob pattern '".toList ++ argument ++ ['\'']]⟩
  | noFile {found : List Text} (hpaths : paths argument = .ok found)
      (hfile : ∀ path ∈ found, isFile path = false) :
      Refused argument (.ofFailure (.noMatchingFiles argument))

end

/-- An argument is expanded unless it stands for the standard input or has no wildcard. -/
theorem isWild_iff {argument : Text} :
    IsWild argument ↔ ¬ (argument = standardInput ∨ (!isPattern argument) = true) := by
  have hpattern : isPattern argument = true ↔ '*' ∈ argument ∨ '?' ∈ argument ∨ '[' ∈ argument := by
    simp only [isPattern, List.any_eq_true, Bool.or_eq_true, beq_iff_eq, or_assoc, and_or_left,
      exists_or, exists_eq_right]
  rw [IsWild, ← hpattern, not_or, Bool.not_eq_true', Bool.not_eq_false]

/-! ### One argument -/

variable {paths : Text → Except Glob.PatternError (List Text)} {isFile : Text → Bool}
  {argument : Text}

theorem expandOne_of_not_isWild (h : ¬ IsWild argument) :
    expandOne paths isFile argument = .ok [argument] :=
  if_pos (not_not.mp fun hnot ↦ h (isWild_iff.mpr hnot))

/-- A pattern gives the files that it matches, and fails without any or if it is no pattern. -/
theorem expandOne_of_isWild (h : IsWild argument) :
    expandOne paths isFile argument =
      match paths argument with
      | .error e =>
        .error ⟨.plain e.message, ["Invalid glob pattern '".toList ++ argument ++ ['\'']]⟩
      | .ok found =>
        if (found.filter isFile).isEmpty then .error (.ofFailure (.noMatchingFiles argument))
        else .ok (found.filter isFile) :=
  if_neg (isWild_iff.mp h)

theorem expandOne_eq_ok (h : Expands paths isFile argument) :
    expandOne paths isFile argument = .ok (standsFor paths isFile argument) := by
  rw [standsFor]
  split
  · rename_i hwild
    obtain ⟨found, hpaths, path, hpath, hfile⟩ := h hwild
    have hmem : path ∈ found.filter isFile := List.mem_filter.mpr ⟨hpath, hfile⟩
    rw [expandOne_of_isWild hwild, hpaths]
    exact if_neg fun hempty ↦ List.ne_nil_of_mem hmem (List.isEmpty_iff.mp hempty)
  · rename_i hplain
    exact expandOne_of_not_isWild hplain

theorem expandOne_eq_error {fault : Fault} (hwild : IsWild argument)
    (h : Refused paths isFile argument fault) :
    expandOne paths isFile argument = .error fault := by
  rw [expandOne_of_isWild hwild]
  cases h with
  | invalid hpaths => rw [hpaths]
  | noFile hpaths hfile =>
    have hnone := List.filter_eq_nil_iff.mpr fun path hpath ↦
      Bool.eq_false_iff.mp (hfile path hpath)
    rw [hpaths]
    dsimp only
    rw [hnone]
    rfl

/-- An argument can be expanded, or it is a pattern that is refused. -/
theorem expands_or_refused (paths : Text → Except Glob.PatternError (List Text))
    (isFile : Text → Bool) (argument : Text) :
    Expands paths isFile argument ∨
      IsWild argument ∧ ∃ fault, Refused paths isFile argument fault := by
  by_cases hwild : IsWild argument
  · cases hpaths : paths argument with
    | error e => exact Or.inr ⟨hwild, _, .invalid hpaths⟩
    | ok found =>
      by_cases hfile : ∃ path ∈ found, isFile path = true
      · exact Or.inl fun _ ↦ ⟨found, hpaths, hfile⟩
      · exact Or.inr ⟨hwild, _, .noFile hpaths fun path hpath ↦
          Bool.eq_false_iff.mpr fun h ↦ hfile ⟨path, hpath, h⟩⟩
  · exact Or.inl fun h ↦ absurd h hwild

/-- An argument is expanded exactly if it is no pattern, or a well-formed one that matches a file.
-/
theorem exists_expandOne_eq_ok_iff :
    (∃ found, expandOne paths isFile argument = .ok found) ↔ Expands paths isFile argument := by
  refine ⟨?_, fun h ↦ ⟨_, expandOne_eq_ok h⟩⟩
  rintro ⟨found, hfound⟩
  rcases expands_or_refused paths isFile argument with h | ⟨hwild, fault, hrefused⟩
  · exact h
  · rw [expandOne_eq_error hwild hrefused] at hfound
    cases hfound

/-- An argument fails exactly if it is a pattern that is refused. -/
theorem expandOne_eq_error_iff {fault : Fault} :
    expandOne paths isFile argument = .error fault ↔
      IsWild argument ∧ Refused paths isFile argument fault := by
  refine ⟨fun herror ↦ ?_, fun ⟨hwild, hrefused⟩ ↦ expandOne_eq_error hwild hrefused⟩
  rcases expands_or_refused paths isFile argument with h | ⟨hwild, fault', hrefused⟩
  · rw [expandOne_eq_ok h] at herror
    cases herror
  · rw [expandOne_eq_error hwild hrefused] at herror
    exact ⟨hwild, Except.error.inj herror ▸ hrefused⟩

/-! ### All arguments -/

/-- The arguments are expanded one after the other, and repetitions are dropped at the end. -/
theorem expand_eq (paths : Text → Except Glob.PatternError (List Text)) (isFile : Text → Bool)
    (arguments : List Text) : expand paths isFile arguments =
      (arguments.mapM (expandOne paths isFile)).map fun found ↦ found.flatten.eraseDups := by
  have hcombine : ∀ found : List (List Text),
      found.foldl (fun inputs more ↦ more.foldl addNew inputs) [] = found.flatten.eraseDups := by
    intro found
    rw [← List.foldl_flatten]
    exact foldl_concat_new _
  rw [expand, foldlM_map]
  simp only [hcombine]

theorem expand_eq_ok {arguments : List Text}
    (h : ∀ argument ∈ arguments, Expands paths isFile argument) :
    expand paths isFile arguments =
      .ok (arguments.flatMap (standsFor paths isFile)).eraseDups := by
  rw [expand_eq, mapM_eq_ok fun argument hmem ↦ expandOne_eq_ok (h argument hmem)]
  rfl

/-- Arguments are expanded exactly if each of them can be, to all inputs that they stand for, in
their order and each at its first place. Otherwise the fault is that of the first argument that is
refused. An argument that stands for nothing but inputs that are listed already makes no difference,
also if it is a pattern. -/
theorem expand_eq_ok_or_error_iff (paths : Text → Except Glob.PatternError (List Text))
    (isFile : Text → Bool) (arguments : List Text) :
    (∀ inputs, expand paths isFile arguments = .ok inputs ↔
      (∀ argument ∈ arguments, Expands paths isFile argument) ∧
        inputs = (arguments.flatMap (standsFor paths isFile)).eraseDups) ∧
    (∀ fault, expand paths isFile arguments = .error fault ↔
      ∃ before argument after, arguments = before ++ argument :: after ∧
        (∀ earlier ∈ before, Expands paths isFile earlier) ∧
          IsWild argument ∧ Refused paths isFile argument fault) ∧
    ∀ inputs argument, expand paths isFile arguments = .ok inputs →
      Expands paths isFile argument → standsFor paths isFile argument ⊆ inputs →
        expand paths isFile (arguments ++ [argument]) = .ok inputs := by
  have hok : ∀ inputs, expand paths isFile arguments = .ok inputs ↔
      (∀ argument ∈ arguments, Expands paths isFile argument) ∧
        inputs = (arguments.flatMap (standsFor paths isFile)).eraseDups := by
    refine fun inputs ↦ ⟨fun h ↦ ?_, fun ⟨hall, heq⟩ ↦ heq ▸ expand_eq_ok hall⟩
    have hall : ∀ argument ∈ arguments, Expands paths isFile argument := by
      rw [expand_eq] at h
      cases hfound : arguments.mapM (expandOne paths isFile) with
      | error fault =>
        rw [hfound] at h
        cases h
      | ok found =>
        exact fun argument hmem ↦
          exists_expandOne_eq_ok_iff.mp (exists_of_mapM_eq_ok hfound argument hmem)
    rw [expand_eq_ok hall] at h
    exact ⟨hall, (Except.ok.inj h).symm⟩
  refine ⟨hok, fun fault ↦ ?_, fun inputs argument hinputs hexpands hlisted ↦ ?_⟩
  · have herror : expand paths isFile arguments = .error fault ↔
        arguments.mapM (expandOne paths isFile) = .error fault := by
      rw [expand_eq]
      cases arguments.mapM (expandOne paths isFile) <;> simp [Except.map]
    simp only [herror, mapM_eq_error_iff, exists_expandOne_eq_ok_iff, expandOne_eq_error_iff]
  · obtain ⟨hall, rfl⟩ := (hok inputs).mp hinputs
    have hmore : ∀ a ∈ arguments ++ [argument], Expands paths isFile a := by
      simpa [or_imp, forall_and] using ⟨hall, hexpands⟩
    rw [expand_eq_ok hmore, List.flatMap_append, List.flatMap_singleton,
      eraseDups_append_of_subset fun path hpath ↦ List.mem_eraseDups.mp (hlisted hpath)]

/-- Two patterns for the same files, a directory among their matches, and a path between them. -/
theorem expand_eq_ok_or_error_iff_listedMatches : ∃ files : FileSystem,
    files = ⟨⟨[(["b".toList], .file (.text [])), (["a".toList], .file (.text [])),
      (["d".toList], .directory)]⟩, []⟩ ∧
    Glob.paths files ['*'] = .ok [['a'], ['b'], ['d']] ∧
    expand (Glob.paths files) files.isFile [['b'], ['-'], ['*']] = .ok [['b'], ['-'], ['a']] ∧
    expand (Glob.paths files) files.isFile [['b'], ['-'], ['*'], ['[', 'a', 'b', ']']] =
      .ok [['b'], ['-'], ['a']] := by
  refine ⟨_, rfl, by decide +kernel, by decide +kernel,
    (expand_eq_ok_or_error_iff _ _ [['b'], ['-'], ['*']]).2.2 _ ['[', 'a', 'b', ']'] ?_ ?_ ?_⟩
  · decide +kernel
  · exact fun _ ↦ ⟨[['a'], ['b']], by decide +kernel, ['a'], by decide +kernel, by decide +kernel⟩
  · decide +kernel

end PromptTemplate.Inputs
