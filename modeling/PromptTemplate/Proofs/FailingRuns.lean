import PromptTemplate.Command.Run
import PromptTemplate.Proofs.KeptFiles
import PromptTemplate.Proofs.ValuePrecedence

/-!
Runs that fail leave no trace: no file is made or changed, and nothing is printed. Most commands do
all that can fail before they print or write (`Outcome.Traceless`). Setting a value that is there
already prints a line before the configuration is saved, but what was loaded can be saved
(`save_of_load`), so that does not fail. A strict check is the exception: it prints what the plain
check prints, and then it fails if there are problems (`strictCheck_runCheck`). All of it holds of
every invocation (`leavesNoTrace_run`).
-/

set_option autoImplicit false
set_option relaxedAutoImplicit false

namespace PromptTemplate

variable {env : Environment}

/-! ### Outcomes -/

namespace Outcome

/-- Whether an outcome, should it be a failure, leaves all files as they were and prints nothing. -/
def Traceless (env : Environment) (outcome : Outcome) : Prop :=
  outcome.fault ≠ none → env.files.SameFiles outcome.files ∧ outcome.output = []

variable {outcome : Outcome}

/-- A run that succeeds is traceless, whatever it leaves. -/
theorem traceless_of_fault_eq_none (h : outcome.fault = none) : outcome.Traceless env :=
  fun hfault ↦ absurd h hfault

theorem traceless_printed (output : Text) : (printed env output).Traceless env :=
  traceless_of_fault_eq_none rfl

theorem traceless_failed (fault : Fault) : (failed env fault).Traceless env :=
  fun _ ↦ ⟨.refl env.files, rfl⟩

theorem traceless_ofOutput (output : Except Fault Text) : (ofOutput env output).Traceless env := by
  cases output with
  | ok t => exact traceless_printed t
  | error fault => exact traceless_failed fault

end Outcome

/-! ### The configuration -/

namespace ConfigAction

variable {path : Text} {config : Config}

/-- What is loaded from a file can be saved there. -/
theorem save_of_load (hfs : env.files.IsGrounded) (hload : Config.load env.files path = .ok config)
    (name : Text) (hthere : config.get? name ≠ none) (other : Config) :
    (other.save env.files path).2 = none := by
  rw [Config.load] at hload
  split at hload
  · rw [Config.loadFrom, FileSystem.readText] at hload
    cases hread : env.files.read path with
    | error e =>
      rw [hread] at hload
      cases hload
    | ok content => exact FileSystem.store_of_read hfs hread _ _ _
  · obtain rfl := Except.ok.inj hload
    exact absurd rfl hthere

/-- Saving leaves no trace when it fails, unless something was printed before it. -/
theorem traceless_saving {before behind : Text}
    (h : before ≠ [] → (config.save env.files path).2 = none) :
    (saving env path config before behind).Traceless env := by
  intro hfault
  rw [saving] at hfault ⊢
  cases hsave : config.save env.files path with
  | mk files fault =>
    rw [hsave] at hfault h
    cases fault with
    | none => exact absurd rfl hfault
    | some fault =>
      have hsame : env.files.SameFiles (config.save env.files path).1 := by
        refine FileSystem.sameFiles_of_store ?_
        rw [← Config.save, hsave]
        exact Option.some_ne_none fault
      rw [hsave] at hsame
      refine ⟨hsame, ?_⟩
      by_contra hbefore
      exact Option.some_ne_none fault (h hbefore)

/-- A set that fails changes no file, whether it is refused or the file cannot be read or saved. -/
theorem traceless_runSet (hfs : env.files.IsGrounded) (name raw : Text) (sort : ValueSort) :
    (runSet env path name raw sort).Traceless env := by
  rw [runSet]
  dsimp only
  split
  · exact Outcome.traceless_failed _
  · split
    · exact Outcome.traceless_failed _
    · split
      · exact Outcome.traceless_failed _
      · rename_i config hload
        refine traceless_saving fun hbefore ↦ save_of_load hfs hload (Text.trim name) ?_ _
        intro hnone
        rw [hnone] at hbefore
        exact hbefore rfl

/-- Every action that fails changes no file and prints nothing. -/
theorem traceless_run (hfs : env.files.IsGrounded) (action : ConfigAction) :
    (run env path action).Traceless env := by
  cases action with
  | create force =>
    rw [run, runCreate]
    split
    · exact Outcome.traceless_printed _
    · exact traceless_saving fun h ↦ absurd rfl h
  | list => exact Outcome.traceless_ofOutput _
  | path => exact Outcome.traceless_printed _
  | set name raw sort => exact traceless_runSet hfs name raw sort
  | unset name =>
    rw [run, runUnset]
    split
    · exact Outcome.traceless_failed _
    · split
      · exact traceless_saving fun h ↦ absurd rfl h
      · exact Outcome.traceless_printed _

end ConfigAction

/-! ### Rendering -/

/-- A rendering has an outcome, and one that fails changes no file and prints nothing. -/
theorem RenderRequest.traceless_run (configPath : Option Text) (r : RenderRequest) :
    ∃ outcome, r.run env configPath = .ok outcome ∧ outcome.Traceless env := by
  rcases run_cases env configPath r with ⟨fault, -, hfail⟩ | ⟨p, output, -, -, hemit⟩
  · exact ⟨_, hfail, Outcome.traceless_failed fault⟩
  · refine ⟨_, hemit, ?_⟩
    rw [emit]
    cases r.output with
    | none => exact Outcome.traceless_of_fault_eq_none rfl
    | some path => exact fun hfault ↦ ⟨FileSystem.sameFiles_of_store hfault, rfl⟩

/-! ### Checks -/

/-- Whether a report of a check tells of problems. Lines do so if the last one counts problems, and
a list does so if it is not empty. -/
def OutputFormat.TellsProblems : OutputFormat → Text → Prop
  | .text, report => "problem(s) found\n".toList <:+ report
  | .json, report => report ≠ "[]\n".toList

namespace LocatedDiagnostic

/-- The text listing tells of problems exactly if there are any. -/
theorem tellsProblems_listing (inputs : Nat) (findings : List LocatedDiagnostic) :
    OutputFormat.text.TellsProblems (listing inputs findings) ↔ findings ≠ [] := by
  cases findings with
  | nil =>
    refine iff_of_false (fun htells ↦ ?_) fun h ↦ h rfl
    have hnone : "no problems found\n".toList <:+ listing inputs [] := by
      refine List.IsSuffix.trans ?_
        (List.suffix_append _ " file(s) checked, no problems found\n".toList)
      decide
    have hsuffix := List.suffix_of_suffix_length_le htells hnone (by decide)
    exact absurd hsuffix (by decide)
  | cons d findings =>
    refine iff_of_true ?_ (List.cons_ne_nil d findings)
    refine List.IsSuffix.trans ?_ (List.suffix_append _ _)
    refine List.IsSuffix.trans ?_ (List.suffix_append _ " problem(s) found\n".toList)
    decide

/-- The JSON listing tells of problems exactly if there are any: their first one begins on a line of
its own. -/
theorem tellsProblems_jsonListing (findings : List LocatedDiagnostic) :
    OutputFormat.json.TellsProblems (jsonListing findings) ↔ findings ≠ [] := by
  cases findings with
  | nil => exact iff_of_false (fun htells ↦ htells rfl) fun h ↦ h rfl
  | cons d findings =>
    refine iff_of_true (fun hnone ↦ ?_) (List.cons_ne_nil d findings)
    cases hnone

end LocatedDiagnostic

namespace Command

/-- Whether a check reads the templates of all inputs that its arguments stand for, and has these
problems to report. -/
def Reports (env : Environment) (arguments : List Text) (problems : List Diagnostic) : Prop :=
  ∃ inputs templates, env.inputs arguments = .ok inputs ∧
    env.readTemplates inputs = .ok templates ∧
      templates.flatMap (fun (_, template) ↦ Diagnostic.ofText template) = problems

/-- A check either fails before it finds anything out, or it reports each problem with its place. -/
theorem inspect_cases (env : Environment) (arguments : List Text) :
    (∃ fault, inspect env arguments = .error fault ∧
      ∀ problems, ¬ Reports env arguments problems) ∨
    ∃ inputs findings, inspect env arguments = .ok (inputs, findings) ∧
      ∀ problems, Reports env arguments problems ↔ findings.map (·.diagnostic) = problems := by
  rw [inspect]
  cases hinputs : env.inputs arguments with
  | error fault =>
    refine .inl ⟨fault, rfl, ?_⟩
    rintro problems ⟨inputs, templates, hok, -⟩
    rw [hinputs] at hok
    cases hok
  | ok inputs =>
    cases htemplates : env.readTemplates inputs with
    | error fault =>
      refine .inl ⟨fault, by rw [Except.bind, htemplates]; rfl, ?_⟩
      rintro problems ⟨inputs', templates, hok, hread, -⟩
      obtain rfl := Except.ok.inj (hinputs.symm.trans hok)
      rw [htemplates] at hread
      cases hread
    | ok templates =>
      refine .inr ⟨_, _, by rw [Except.bind, htemplates]; rfl, fun problems ↦ ?_⟩
      have hproblems : (templates.flatMap fun (input, template) ↦
          LocatedDiagnostic.ofTemplate input template).map (·.diagnostic) =
            templates.flatMap fun (_, template) ↦ Diagnostic.ofText template := by
        simp [List.map_flatMap, LocatedDiagnostic.ofTemplate, Function.comp_def]
      rw [hproblems]
      constructor
      · rintro ⟨inputs', templates', hok, hread, hsame⟩
        obtain rfl := Except.ok.inj (hinputs.symm.trans hok)
        obtain rfl := Except.ok.inj (htemplates.symm.trans hread)
        exact hsame
      · exact fun hsame ↦ ⟨inputs, templates, hinputs, htemplates, hsame⟩

/-- How a strict check is related to the plain check of the same inputs: it prints the same, fails
where the plain one does, and else fails exactly if there are problems, of which the plain one
tells. -/
structure StrictCheck (env : Environment) (arguments : List Text) (format : OutputFormat)
    (strict plain : Outcome) : Prop where
  output_eq : strict.output = plain.output
  eq_of_fault : plain.fault ≠ none → strict = plain
  fault_eq_none_iff : plain.fault = none ↔ ∃ problems, Reports env arguments problems
  fault_eq : ∀ problems, Reports env arguments problems →
    strict.fault = if problems = [] then none else some (.ofFailure (.checkFailed problems.length))
  tells_iff : ∀ problems, Reports env arguments problems →
    (format.TellsProblems plain.output ↔ problems ≠ [])

/-- A check that finds out all it is to find out reports the findings, and it fails for them only if
it is strict. -/
theorem exists_report {arguments : List Text} {inputs : Nat} {findings : List LocatedDiagnostic}
    (h : inspect env arguments = .ok (inputs, findings)) (format : OutputFormat) :
    ∃ report, (format.TellsProblems report ↔ findings ≠ []) ∧
      ∀ strict, runCheck env arguments strict format = ⟨env.files, report, [],
        if strict && !findings.isEmpty then some (.ofFailure (.checkFailed findings.length))
        else none⟩ := by
  cases format with
  | text =>
    refine ⟨_, LocatedDiagnostic.tellsProblems_listing inputs findings, fun strict ↦ ?_⟩
    rw [runCheck, h]
    rfl
  | json =>
    refine ⟨_, LocatedDiagnostic.tellsProblems_jsonListing findings, fun strict ↦ ?_⟩
    rw [runCheck, h]
    rfl

/-- A check changes no file. -/
theorem files_runCheck (arguments : List Text) (strict : Bool) (format : OutputFormat) :
    (runCheck env arguments strict format).files = env.files := by
  rw [runCheck]
  split <;> rfl

/-- A strict check does what a plain one does, and fails if there are problems. -/
theorem strictCheck_runCheck (env : Environment) (arguments : List Text) (format : OutputFormat) :
    StrictCheck env arguments format (runCheck env arguments true format)
      (runCheck env arguments false format) := by
  rcases inspect_cases env arguments with ⟨fault, hinspect, hnone⟩ |
    ⟨inputs, findings, hinspect, hall⟩
  · have hrun : ∀ strict, runCheck env arguments strict format = .failed env fault := by
      intro strict
      rw [runCheck, hinspect]
    rw [hrun, hrun]
    exact
      { output_eq := rfl
        eq_of_fault := fun _ ↦ rfl
        fault_eq_none_iff := iff_of_false (Option.some_ne_none fault) (not_exists.mpr hnone)
        fault_eq := fun problems h ↦ absurd h (hnone problems)
        tells_iff := fun problems h ↦ absurd h (hnone problems) }
  · obtain ⟨report, htells, hrun⟩ := exists_report hinspect format
    rw [hrun, hrun]
    refine
      { output_eq := rfl
        eq_of_fault := fun h ↦ absurd rfl h
        fault_eq_none_iff := iff_of_true rfl ⟨_, (hall _).mpr rfl⟩
        fault_eq := fun problems h ↦ ?_
        tells_iff := fun problems h ↦ ?_ }
    · obtain rfl := (hall problems).mp h
      cases findings with
      | nil => rfl
      | cons d findings => simp
    · obtain rfl := (hall problems).mp h
      rw [ne_eq, List.map_eq_nil_iff]
      exact htells

namespace StrictCheck

variable {arguments : List Text} {format : OutputFormat} {strict plain : Outcome}

/-- A strict check that fails although there are no problems fails as the plain check does. -/
theorem fault_ne_none (h : StrictCheck env arguments format strict plain)
    (hfault : strict.fault ≠ none)
    (hnone : ∀ problems, Reports env arguments problems → problems = []) :
    plain.fault ≠ none := by
  intro hplain
  obtain ⟨problems, hproblems⟩ := h.fault_eq_none_iff.mp hplain
  refine hfault ?_
  rw [h.fault_eq problems hproblems, if_pos (hnone problems hproblems)]

/-- Passing outcomes on without their warnings leaves a strict check related to the plain one. -/
theorem passOn (h : StrictCheck env arguments format strict plain) (i : Invocation) :
    StrictCheck env arguments format (i.passOn strict) (i.passOn plain) := by
  unfold Invocation.passOn
  split
  · exact { h with eq_of_fault := fun hfault ↦ by rw [h.eq_of_fault hfault] }
  · exact h

end StrictCheck

theorem traceless_runConfig (hfs : env.files.IsGrounded) (configPath : Option Text)
    (action : ConfigAction) : (runConfig env configPath action).Traceless env := by
  rw [runConfig]
  split
  · exact Outcome.traceless_failed _
  · exact ConfigAction.traceless_run hfs action

/-- A command leaves no trace when it fails, unless it is a strict check. -/
theorem traceless_run (hfs : env.files.IsGrounded) (configPath : Option Text) {command : Command}
    (h : ∀ arguments format, command ≠ .check arguments true format) :
    ∃ outcome, command.run env configPath = .ok outcome ∧ outcome.Traceless env := by
  cases command with
  | parse input format => exact ⟨_, rfl, Outcome.traceless_ofOutput _⟩
  | render request => exact request.traceless_run configPath
  | controls arguments format => exact ⟨_, rfl, Outcome.traceless_ofOutput _⟩
  | check arguments strict format =>
    cases strict with
    | true => exact absurd rfl (h arguments format)
    | false =>
      refine ⟨_, rfl, ?_⟩
      rw [runCheck]
      split
      · exact Outcome.traceless_failed _
      · exact Outcome.traceless_of_fault_eq_none rfl
  | config action => exact ⟨_, rfl, traceless_runConfig hfs configPath action⟩

end Command

/-! ### Invocations -/

namespace Invocation

variable {i : Invocation} {outcome : Outcome}

/-- Whether an invocation is a strict check that has problems to report. -/
def FailsForProblems (env : Environment) (i : Invocation) : Prop :=
  ∃ arguments format problems, i.command = .check arguments true format ∧
    Command.Reports env arguments problems ∧ problems ≠ []

/-- Whether the outcome of a run leaves no trace if it is a failure: all files are as they were, and
nothing is printed but what a strict check with problems prints, which is what the plain check
prints. -/
structure LeavesNoTrace (env : Environment) (i : Invocation) (outcome : Outcome) : Prop where
  sameFiles : outcome.fault ≠ none → env.files.SameFiles outcome.files
  output_eq_nil : outcome.fault ≠ none → ¬ i.FailsForProblems env → outcome.output = []
  strictCheck : ∀ arguments format, i.command = .check arguments true format →
    ∃ plain, ({ i with command := .check arguments false format }).run env = .ok plain ∧
      Command.StrictCheck env arguments format outcome plain

/-- Passing the output on to where it is written leaves an outcome traceless. -/
theorem traceless_passOn (h : outcome.Traceless env) (i : Invocation) :
    (i.passOn outcome).Traceless env := by
  unfold passOn
  split
  · exact h
  · exact h

/-- A strict check that fails leaves the files alone, and what it prints is what the plain one
prints. -/
theorem leavesNoTrace_of_strict (hfs : env.files.IsGrounded) {arguments : List Text}
    {format : OutputFormat} (hi : i.command = .check arguments true format) :
    ∃ outcome, i.run env = .ok outcome ∧ i.LeavesNoTrace env outcome := by
  have hcheck := (Command.strictCheck_runCheck env arguments format).passOn i
  obtain ⟨plain, hplain, htraceless⟩ := Command.traceless_run hfs i.configPath
    (show ∀ arguments' format',
      Command.check arguments false format ≠ .check arguments' true format' by simp)
  obtain rfl := Except.ok.inj hplain
  refine ⟨i.passOn (Command.runCheck env arguments true format), ?_, fun _ ↦ ?_,
    fun hfault hproblems ↦ ?_, fun arguments' format' hi' ↦ ?_⟩
  · rw [run, hi]
    rfl
  · have hfiles : (i.passOn (Command.runCheck env arguments true format)).files = env.files := by
      rw [passOn, apply_ite Outcome.files, ite_self, Command.files_runCheck]
    exact hfiles ▸ .refl env.files
  · have hnone : ∀ problems, Command.Reports env arguments problems → problems = [] := by
      intro problems hreports
      by_contra hne
      exact hproblems ⟨arguments, format, problems, hi, hreports, hne⟩
    rw [hcheck.output_eq]
    exact (traceless_passOn htraceless i (hcheck.fault_ne_none hfault hnone)).2
  · rw [hi] at hi'
    cases hi'
    exact ⟨_, rfl, hcheck⟩

/-- Every run that fails leaves no trace, if the directory in which paths start is there. -/
theorem leavesNoTrace_run (hfs : env.files.IsGrounded) (i : Invocation) :
    ∃ outcome, i.run env = .ok outcome ∧ i.LeavesNoTrace env outcome := by
  by_cases hstrict : ∃ arguments format, i.command = .check arguments true format
  · obtain ⟨arguments, format, hi⟩ := hstrict
    exact leavesNoTrace_of_strict hfs hi
  · have hother : ∀ arguments format, i.command ≠ .check arguments true format :=
      fun arguments format hi ↦ hstrict ⟨arguments, format, hi⟩
    obtain ⟨outcome, hrun, htraceless⟩ := Command.traceless_run hfs i.configPath hother
    have hpassed := traceless_passOn htraceless i
    refine ⟨i.passOn outcome, ?_, fun hfault ↦ (hpassed hfault).1,
      fun hfault _ ↦ (hpassed hfault).2, fun arguments format hi ↦
        absurd hi (hother arguments format)⟩
    rw [run, hrun]
    rfl

/-- A file with a closing tag that closes nothing. -/
def strayTag : Environment :=
  { files := ⟨⟨[(["d".toList], .directory), (["d".toList, "t".toList],
      .file (.text "{{/toggle:A}}".toList))]⟩, ["d".toList]⟩
    home := none
    input := .text [] }

/-- A strict check of one file. -/
def checkingStrictly : Invocation := ⟨false, false, none, .check ["t".toList] true .text⟩

theorem leavesNoTrace_run_strayTag :
    strayTag.files.IsGrounded ∧ ∃ outcome, checkingStrictly.run strayTag = .ok outcome ∧
      outcome.fault = some (.ofFailure (.checkFailed 1)) ∧
      checkingStrictly.LeavesNoTrace strayTag outcome := by
  have hfs : strayTag.files.IsGrounded := by decide
  obtain ⟨outcome, hrun, htrace⟩ := leavesNoTrace_run hfs checkingStrictly
  have hfault : (checkingStrictly.run strayTag).map (·.fault) =
      .ok (some (.ofFailure (.checkFailed 1))) := by decide +kernel
  rw [hrun] at hfault
  exact ⟨hfs, outcome, hrun, Except.ok.inj hfault, htrace⟩

end Invocation

end PromptTemplate
