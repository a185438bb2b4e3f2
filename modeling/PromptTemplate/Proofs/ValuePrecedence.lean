import PromptTemplate.Command.Rendering
import PromptTemplate.Proofs.OrderedEntries
import PromptTemplate.Proofs.ReferenceRewriting
import PromptTemplate.Proofs.StoredFiles

/-!
Which of several values for a name counts when a template is rendered on request. A request gives
values of its own (`given?`), and they stand above those of the values file, which stand above those
of the global configuration (`valueOf?`). A request that succeeds emits its template rendered with
just these values, to the standard output or as the content of a file; one that ignores the
configuration reads nothing of it (`emits_by_precedence`). A template is rendered with its own
declarations, so no step of a rendering on request can fail (`run_cases`).
-/

set_option autoImplicit false
set_option relaxedAutoImplicit false

namespace PromptTemplate.RenderRequest

/-! ### The value for a name -/

/-- The text that the last assignment to a name gives it: what follows the first equals sign of the
last assignment whose part before that sign is the name, but for blanks around it. -/
def assigned? (assignments : List Text) (name : Text) : Option Text :=
  assignments.reverse.findSome? fun assignment ↦
    if '=' ∈ assignment ∧ Text.trim (assignment.takeWhile (· != '=')) = name then
      some (assignment.dropWhile (· != '=')).tail
    else none

/-- The value that a request itself gives to a name. -/
def given? (r : RenderRequest) (name : Text) : Option Value :=
  if ∃ written ∈ r.disabled, Text.trim written = name then some (.bool false)
  else if ∃ written ∈ r.enabled, Text.trim written = name then some (.bool true)
  else (assigned? r.assignments name).map .text

/-- The value for a name in view of those of the values file and of the configuration. -/
def valueOf? (r : RenderRequest) (filed configured : ValueMap) (name : Text) : Option Value :=
  (r.given? name).or ((filed.get? name).or (configured.get? name))

/-- The values of the values file, none if there is no such file. -/
def filedValues (r : RenderRequest) (files : FileSystem) : Except Fault ValueMap :=
  match r.valuesFile with
  | some path => readValues files path
  | none => .ok .empty

/-- The values of the configuration at a path, or else at its usual place; none if it is ignored. -/
def configuredValues (r : RenderRequest) (env : Environment) (configPath : Option Text) :
    Except Fault ValueMap :=
  if r.ignoresConfig then .ok .empty
  else ((Config.pathOr env.home configPath).bind (Config.load env.files)).map (·.values)

/-- Whether an outcome emits a text where the request wants it: on the standard output, or as the
whole content of a file. -/
def Emits (r : RenderRequest) (outcome : Outcome) (text : Text) : Prop :=
  match r.output with
  | none => outcome.output = text
  | some path => outcome.output = [] ∧ outcome.files.read path = .ok (.text text)

/-- Whether two outcomes of a request are the same but for the files that it does not write. -/
structure Agrees (r : RenderRequest) (outcome outcome' : Outcome) : Prop where
  output_eq : outcome.output = outcome'.output
  warnings_eq : outcome.warnings = outcome'.warnings
  fault_eq : r.output = none → outcome.fault = outcome'.fault
  read_eq : ∀ path, r.output = some path → outcome.fault = none → outcome'.fault = none →
    outcome.files.read path = outcome'.files.read path

/-! ### Values that are given with a request -/

/-- An assignment is split at its first mark, and blanks around the name are left out. -/
theorem splitAssignment_eq_ok {assignment name value : Text}
    (h : splitAssignment assignment = .ok (name, value)) : '=' ∈ assignment ∧
      Text.trim (assignment.takeWhile (· != '=')) = name ∧
        (assignment.dropWhile (· != '=')).tail = value := by
  rw [splitAssignment, Text.splitFirst?] at h
  cases hdrop : assignment.dropWhile (· != '=') with
  | nil =>
    rw [hdrop] at h
    cases h
  | cons c rest =>
    rw [hdrop] at h
    dsimp only at h
    have hc : c = '=' := by
      have hnot := List.head?_dropWhile_not (· != '=') assignment
      rw [hdrop] at hnot
      simpa using hnot
    have hmem : '=' ∈ assignment :=
      List.dropWhile_subset _ (by rw [hdrop, hc]; exact List.mem_cons_self)
    split at h
    · cases h
    · obtain ⟨hname, hvalue⟩ := Prod.mk.inj (Except.ok.inj h)
      exact ⟨hmem, hname, hvalue⟩

/-- Of several assignments to a name the last one counts. -/
theorem assigned?_cons (assignment : Text) (assignments : List Text) (name : Text) :
    assigned? (assignment :: assignments) name =
      (assigned? assignments name).or (assigned? [assignment] name) := by
  rw [assigned?, List.reverse_cons, List.findSome?_append]
  rfl

/-- The last entry of the assignments is the one that is assigned. -/
theorem last?_assignments {assignments : List Text} {pairs : List (Text × Text)}
    (h : assignments.mapM splitAssignment = .ok pairs) (name : Text) :
    ValueMap.last? (pairs.map fun (name, value) ↦ (name, Value.text value)) name =
      (assigned? assignments name).map .text := by
  induction assignments generalizing pairs with
  | nil =>
    obtain rfl : [] = pairs := Except.ok.inj h
    rfl
  | cons assignment assignments ih =>
    rw [List.mapM_cons] at h
    cases hfirst : splitAssignment assignment with
    | error fault =>
      rw [hfirst] at h
      cases h
    | ok pair =>
      cases hrest : assignments.mapM splitAssignment with
      | error fault =>
        rw [hfirst, hrest] at h
        cases h
      | ok more =>
        rw [hfirst, hrest] at h
        obtain rfl : pair :: more = pairs := Except.ok.inj h
        obtain ⟨hmem, hname, hvalue⟩ := splitAssignment_eq_ok hfirst
        have hone : ValueMap.last? [(pair.1, .text pair.2)] name =
            (assigned? [assignment] name).map .text := by
          by_cases hsame : pair.1 = name
          · simp [ValueMap.last?, assigned?, hmem, hname, hvalue, hsame]
          · simp [ValueMap.last?, assigned?, hname, hsame]
        have hcut := ValueMap.last?_append [(pair.1, .text pair.2)]
          (more.map fun (name, value) ↦ (name, Value.text value)) name
        rw [assigned?_cons, Option.map_or, ← ih hrest, ← hone]
        exact hcut

/-- Names that are all given one value have it. -/
theorem last?_map_trim (names : List Text) (value : Value) (name : Text) :
    ValueMap.last? (names.map fun written ↦ (Text.trim written, value)) name =
      if ∃ written ∈ names, Text.trim written = name then some value else none := by
  induction names with
  | nil => simp [ValueMap.last?]
  | cons written names ih =>
    have hcut := ValueMap.last?_append [(Text.trim written, value)]
      (names.map fun written ↦ (Text.trim written, value)) name
    rw [List.map_cons, ← List.singleton_append, hcut, ih]
    by_cases hrest : ∃ written ∈ names, Text.trim written = name
    · simp [hrest]
    · by_cases hsame : Text.trim written = name <;> simp [ValueMap.last?, hrest, hsame]

/-- What is disabled counts before what is enabled, and that before what is assigned. -/
theorem get?_givenValues {r : RenderRequest} {given : ValueMap} (h : r.givenValues = .ok given)
    (name : Text) : given.get? name = r.given? name := by
  rw [givenValues] at h
  cases hpairs : r.assignments.mapM splitAssignment with
  | error fault =>
    rw [hpairs] at h
    cases h
  | ok pairs =>
    rw [hpairs] at h
    obtain rfl := Except.ok.inj h
    rw [ValueMap.get?_ofList, ValueMap.last?_append, ValueMap.last?_append, last?_map_trim,
      last?_map_trim, last?_assignments hpairs, given?]
    by_cases hdisabled : ∃ written ∈ r.disabled, Text.trim written = name
    · simp only [hdisabled, if_true, Option.some_or]
    · by_cases henabled : ∃ written ∈ r.enabled, Text.trim written = name
      · simp only [hdisabled, henabled, if_true, if_false, Option.none_or, Option.some_or]
      · simp only [hdisabled, henabled, if_false, Option.none_or]

/-! ### What a request reads and emits -/

/-- A request reads its template, the configuration unless it is to be ignored, the values file if
there is one, and then its own values. -/
theorem prepare_eq (env : Environment) (configPath : Option Text) (r : RenderRequest) :
    r.prepare env configPath =
      (env.readTemplate r.input).bind fun template ↦
        (r.configuredValues env configPath).bind fun configured ↦
          (r.filedValues env.files).bind fun filed ↦
            r.givenValues.bind fun given ↦ .ok ⟨template, configured, filed, given⟩ := by
  rw [prepare, configuredValues, filedValues]
  cases env.readTemplate r.input with
  | error fault => rfl
  | ok template => cases r.ignoresConfig <;> cases r.valuesFile <;> rfl

variable {env env' : Environment} {configPath configPath' : Option Text} {r : RenderRequest}
  {p : Prepared} {outcome outcome' : Outcome}

/-- What is prepared has been read from its sources. -/
theorem exists_of_prepare (h : r.prepare env configPath = .ok p) :
    env.readTemplate r.input = .ok p.template ∧
      r.configuredValues env configPath = .ok p.configured ∧
        r.filedValues env.files = .ok p.filed ∧ r.givenValues = .ok p.given := by
  rw [prepare_eq] at h
  obtain ⟨template, htemplate, h⟩ := exists_of_bind_eq_ok h
  obtain ⟨configured, hconfigured, h⟩ := exists_of_bind_eq_ok h
  obtain ⟨filed, hfiled, h⟩ := exists_of_bind_eq_ok h
  obtain ⟨given, hgiven, h⟩ := exists_of_bind_eq_ok h
  obtain rfl := Except.ok.inj h
  exact ⟨htemplate, hconfigured, hfiled, hgiven⟩

/-- A request fails when it reads what it names, or it passes on the rendered template. -/
theorem run_cases (env : Environment) (configPath : Option Text) (r : RenderRequest) :
    (∃ fault, r.prepare env configPath = .error fault ∧
        r.run env configPath = .ok (.failed env fault)) ∨
      ∃ p output, r.prepare env configPath = .ok p ∧
        render p.template (Declaration.ofText p.template) p.values = .ok output ∧
          r.run env configPath = .ok (r.emit env p output) := by
  rw [run]
  cases r.prepare env configPath with
  | error fault => exact Or.inl ⟨fault, rfl, rfl⟩
  | ok p =>
    have hrender := Rendering.render_ofText_eq_rendered p.template p.values
    refine Or.inr ⟨p, _, rfl, hrender, ?_⟩
    dsimp only
    rw [Prepared.rendered, Prepared.declarations, hrender]
    rfl

/-- What is passed on without a fault is where the request wants it. -/
theorem emits_emit {output : Text} (h : (r.emit env p output).fault = none) :
    r.Emits (r.emit env p output) output := by
  rw [emit] at h
  rw [Emits, emit]
  cases hpath : r.output with
  | none => dsimp only
  | some path =>
    rw [hpath] at h
    dsimp only at h ⊢
    obtain ⟨stored, hstore, -, -, hread⟩ :=
      FileSystem.store_of_isStorable (FileSystem.isStorable_of_store h) (.text output)
    rw [hstore]
    exact ⟨rfl, hread⟩

/-- A request that succeeds has read all that it names, and emits what it has rendered. -/
theorem exists_prepared (hrun : r.run env configPath = .ok outcome) (h : outcome.fault = none) :
    ∃ p output, r.prepare env configPath = .ok p ∧
      render p.template (Declaration.ofText p.template) p.values = .ok output ∧
        r.Emits outcome output ∧ outcome.warnings = p.warnings := by
  rcases run_cases env configPath r with ⟨fault, -, hfail⟩ | ⟨p, output, hp, hrender, hemit⟩
  · obtain rfl := Except.ok.inj (hrun.symm.trans hfail)
    cases h
  · obtain rfl := Except.ok.inj (hrun.symm.trans hemit)
    refine ⟨p, output, hp, hrender, emits_emit h, ?_⟩
    rw [emit]
    cases r.output <;> rfl

/-- What a request has read determines what it emits. -/
theorem agrees_of_prepare_eq (h : r.prepare env configPath = r.prepare env' configPath')
    (hrun : r.run env configPath = .ok outcome) (hrun' : r.run env' configPath' = .ok outcome') :
    r.Agrees outcome outcome' := by
  have hread : ∀ path, r.output = some path → outcome.fault = none → outcome'.fault = none →
      outcome.files.read path = outcome'.files.read path := by
    intro path hpath hfault hfault'
    obtain ⟨p, output, hp, hrender, hemits, -⟩ := exists_prepared hrun hfault
    obtain ⟨p', output', hp', hrender', hemits', -⟩ := exists_prepared hrun' hfault'
    obtain rfl := Except.ok.inj (hp.symm.trans (h.trans hp'))
    obtain rfl := Except.ok.inj (hrender.symm.trans hrender')
    rw [Emits, hpath] at hemits hemits'
    exact hemits.2.trans hemits'.2.symm
  have hsame : outcome.output = outcome'.output ∧ outcome.warnings = outcome'.warnings ∧
      (r.output = none → outcome.fault = outcome'.fault) := by
    rcases run_cases env configPath r with ⟨fault, hp, hfail⟩ | ⟨p, output, hp, hrender, hemit⟩
    · obtain rfl := Except.ok.inj (hrun.symm.trans hfail)
      rw [run, ← h, hp] at hrun'
      obtain rfl := Except.ok.inj hrun'
      exact ⟨rfl, rfl, fun _ ↦ rfl⟩
    · obtain rfl := Except.ok.inj (hrun.symm.trans hemit)
      rcases run_cases env' configPath' r with
        ⟨fault, hp', -⟩ | ⟨p', output', hp', hrender', hemit'⟩
      · cases hp.symm.trans (h.trans hp')
      · obtain rfl := Except.ok.inj (hrun'.symm.trans hemit')
        obtain rfl := Except.ok.inj (hp.symm.trans (h.trans hp'))
        obtain rfl := Except.ok.inj (hrender.symm.trans hrender')
        rw [emit, emit]
        cases r.output with
        | none => exact ⟨rfl, rfl, fun _ ↦ rfl⟩
        | some path => exact ⟨rfl, rfl, nofun⟩
  exact ⟨hsame.1, hsame.2.1, hsame.2.2, hread⟩

/-- A rendering has an outcome, since the declarations are those of the template. -/
theorem exists_run_eq (env : Environment) (configPath : Option Text) (r : RenderRequest) :
    ∃ outcome, r.run env configPath = .ok outcome := by
  rcases run_cases env configPath r with ⟨fault, -, hfail⟩ | ⟨p, output, -, -, hemit⟩
  · exact ⟨_, hfail⟩
  · exact ⟨_, hemit⟩

/-- A request that succeeds emits its template rendered with the values that count, of its own ones,
of those of the values file and of those of the configuration. One that ignores the configuration
comes out the same wherever the configuration is and whatever other files there are than its
template and its values file. Of two layers of values the second is preferred, and layers can be put
together in any order. -/
theorem emits_by_precedence (env : Environment) (configPath : Option Text) (r : RenderRequest) :
    (∃ outcome, r.run env configPath = .ok outcome ∧
      (outcome.fault = none → ∃ template filed configured values output,
        env.readTemplate r.input = .ok template ∧ r.filedValues env.files = .ok filed ∧
          r.configuredValues env configPath = .ok configured ∧
          (∀ name, values.get? name = r.valueOf? filed configured name) ∧
          render template (Declaration.ofText template) values = .ok output ∧
            r.Emits outcome output) ∧
      (r.ignoresConfig = true →
        (∀ configPath', r.run env configPath' = .ok outcome) ∧
          ∀ env' configPath', env.readTemplate r.input = env'.readTemplate r.input →
            r.filedValues env.files = r.filedValues env'.files →
              ∃ outcome', r.run env' configPath' = .ok outcome' ∧ r.Agrees outcome outcome')) ∧
    ∀ a b c : ValueMap,
      (∀ name, (a.layered b).get? name = (b.get? name).or (a.get? name)) ∧
        (a.layered b).layered c = a.layered (b.layered c) := by
  obtain ⟨outcome, hrun⟩ := exists_run_eq env configPath r
  refine ⟨⟨outcome, hrun, fun h ↦ ?_, fun hignores ↦ ?_⟩,
    fun a b c ↦ ⟨ValueMap.get?_layered a b, ValueMap.layered_assoc a b c⟩⟩
  · obtain ⟨p, output, hp, hrender, hemits, -⟩ := exists_prepared hrun h
    obtain ⟨htemplate, hconfigured, hfiled, hgiven⟩ := exists_of_prepare hp
    refine ⟨p.template, p.filed, p.configured, p.values, output, htemplate, hfiled, hconfigured,
      fun name ↦ ?_, hrender, hemits⟩
    rw [Prepared.values, ValueMap.get?_layered, ValueMap.get?_layered, get?_givenValues hgiven,
      valueOf?]
  · have hprepare : ∀ env' configPath', env.readTemplate r.input = env'.readTemplate r.input →
        r.filedValues env.files = r.filedValues env'.files →
          r.prepare env configPath = r.prepare env' configPath' := by
      intro env' configPath' htemplate hfiled
      rw [prepare_eq, prepare_eq, htemplate, hfiled, configuredValues, configuredValues,
        if_pos hignores, if_pos hignores]
    refine ⟨fun configPath' ↦ ?_, fun env' configPath' htemplate hfiled ↦ ?_⟩
    · rw [← hrun, run, run, hprepare env configPath' rfl rfl]
    · obtain ⟨outcome', hrun'⟩ := exists_run_eq env' configPath' r
      exact ⟨outcome', hrun',
        agrees_of_prepare_eq (hprepare env' configPath' htemplate hfiled) hrun hrun'⟩

/-- A template with a values file and a configuration beside it. -/
def allSources : Environment :=
  { files := ⟨⟨[
      (["t".toList], .file (.text
        "{{text:A}} {{text:C}} {{text:D}}{{toggle:F}}f{{/toggle:F}}".toList)),
      (["v.toml".toList], .file (.text "A = 1\nC = 2".toList)),
      (["c".toList], .file (.text "[values]\nC = 3\nD = 4".toList))]⟩, []⟩
    home := none
    input := .text [] }

/-- A request with the values file and with values of its own. -/
def fromAllSources : RenderRequest :=
  { input := "t".toList
    assignments := ["A=z".toList, " A =x=y ".toList, "F=off".toList]
    enabled := [" F".toList]
    disabled := []
    valuesFile := some "v.toml".toList
    ignoresConfig := false
    output := none }

/-- The last assignment, what is enabled, the values file and the configuration each give the value
that counts for one control. -/
theorem emits_by_precedence_allSources :
    ∃ outcome, fromAllSources.run allSources (some "c".toList) = .ok outcome ∧
      outcome.fault = none ∧ outcome.output = "x=y  2 4f".toList ∧
      ∃ template filed configured values output,
        allSources.readTemplate fromAllSources.input = .ok template ∧
          fromAllSources.filedValues allSources.files = .ok filed ∧
          fromAllSources.configuredValues allSources (some "c".toList) = .ok configured ∧
          (∀ name, values.get? name = fromAllSources.valueOf? filed configured name) ∧
          render template (Declaration.ofText template) values = .ok output ∧
            fromAllSources.Emits outcome output := by
  obtain ⟨outcome, hrun, hemits, -⟩ :=
    (emits_by_precedence allSources (some "c".toList) fromAllSources).1
  have hends : (fromAllSources.run allSources (some "c".toList)).map
      (fun outcome ↦ (outcome.fault, outcome.output)) = .ok (none, "x=y  2 4f".toList) := by
    decide +kernel
  rw [hrun] at hends
  obtain ⟨hfault, houtput⟩ := Prod.mk.inj (Except.ok.inj hends)
  exact ⟨outcome, hrun, hfault, houtput, hemits hfault⟩

end PromptTemplate.RenderRequest
