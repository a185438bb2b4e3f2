import PromptTemplate.Command.Configuration
import PromptTemplate.Proofs.ConfigurationRoundTrip

/-!
The configuration file as a map. What an action saves is determined by the values that are stored
(`saved?`), and `next` says what is stored behind it. Every action finds the file as the one before
it left it (`Holds`), so one action takes the file from the stored values to the next ones
(`advances`), and a run of actions takes it through all of them (`holds_filesAfter`). What is loaded
behind a run are the values that the actions make of the first ones, one after the other; actions
that save nothing leave the files as they are, and no action but a set that is refused fails
(`Holds.runs`). This is so wherever the configuration is missing or valid at first (`runsOnMap`).
-/

set_option autoImplicit false
set_option relaxedAutoImplicit false

namespace PromptTemplate.ConfigAction

/-! ### What actions make of the stored values -/

/-- The name and the value that are to be set, unless the name is blank or the value is not of its
sort. -/
def assignment? (name raw : Text) (sort : ValueSort) : Option (Text × Value) :=
  if (Text.trim name).isEmpty then none
  else
    match typedValue raw sort with
    | .error _ => none
    | .ok value => some (Text.trim name, value)

/-- The values that an action saves in view of the stored ones, if it saves any. There are no stored
values where there is no file. -/
def saved? (stored : Option ValueMap) : ConfigAction → Option ValueMap
  | .create force => if stored.isSome && !force then none else some Config.starter.values
  | .set name raw sort =>
    (assignment? name raw sort).map fun (name, value) ↦ (stored.getD .empty).insert name value
  | .unset name => stored.bind fun m ↦ if m.contains name then some (m.erase name) else none
  | .list => none
  | .path => none

/-- The values that are stored behind an action. -/
def next (stored : Option ValueMap) (action : ConfigAction) : Option ValueMap :=
  (saved? stored action).or stored

/-- Whether an action is a set with a blank name or a value that is not of its sort. -/
def isRefused : ConfigAction → Bool
  | .set name raw sort => (assignment? name raw sort).isNone
  | .create _ | .list | .path | .unset _ => false

/-- The files behind a run of actions on the configuration at a path. -/
def filesAfter (env : Environment) (path : Text) (actions : List ConfigAction) : FileSystem :=
  actions.foldl (fun files action ↦ (run { env with files } path action).files) env.files

/-! ### One action -/

/-- Whether the configuration at a path has certain values, none standing for a missing file, and
can be stored anew. -/
structure Holds (files : FileSystem) (path : Text) (stored : Option ValueMap) : Prop where
  isStorable : files.IsStorable path
  has_eq : files.has path = stored.isSome
  exists_load : ∃ config, Config.load files path = .ok config ∧
    config.values.forgetNaNSign = (stored.getD .empty).forgetNaNSign

variable {env : Environment} {path : Text} {stored : Option ValueMap}

/-- What is saved is what the file holds, also for other values that differ by the signs of what is
not a number only. -/
theorem holds_saving (h : env.files.IsStorable path) {config : Config} {m : ValueMap}
    (hsame : config.values.forgetNaNSign = m.forgetNaNSign) (before behind : Text) :
    (saving env path config before behind).fault = none ∧
      Holds (saving env path config before behind).files path (some m) := by
  obtain ⟨files, hstore, hstorable, hhas, hread⟩ :=
    FileSystem.store_of_isStorable h (.text config.toTomlText)
  have hsaving : saving env path config before behind = ⟨files, before ++ behind, [], none⟩ := by
    rw [saving, Config.save, hstore]
  have hload : Config.load files path = .ok ⟨config.values.forgetNaNSign⟩ := by
    rw [Config.load, if_pos hhas, Config.loadFrom_of_read hread]
  rw [hsaving]
  exact ⟨rfl, hstorable, hhas, _, hload, (ValueMap.forgetNaNSign_forgetNaNSign _).trans hsame⟩

/-- A name is in a loaded configuration exactly if it is in the stored one. -/
theorem contains_of_load {config : Config}
    (hvalues : config.values.forgetNaNSign = (stored.getD .empty).forgetNaNSign) (name : Text) :
    (config.get? name).isSome = (stored.getD .empty).contains name := by
  rw [← ValueMap.contains_forgetNaNSign, ← hvalues, ValueMap.contains_forgetNaNSign]
  rfl

/-- Whether an action takes the file from the stored values to the next ones, fails only if it is
refused, and leaves the files as they are if it saves nothing. -/
structure Advances (env : Environment) (path : Text) (stored : Option ValueMap)
    (action : ConfigAction) : Prop where
  holds : Holds (run env path action).files path (next stored action)
  isSome_fault : (run env path action).fault.isSome = action.isRefused
  files_eq : saved? stored action = none → (run env path action).files = env.files

section Advances

variable {action : ConfigAction}

/-- An action that saves nothing advances if it leaves the files alone and fails only if it is
refused. -/
theorem advances_of_kept (h : Holds env.files path stored) (hsaved : saved? stored action = none)
    (hrun : (run env path action).files = env.files ∧
      (run env path action).fault.isSome = action.isRefused) :
    Advances env path stored action where
  holds := by
    rw [hrun.1, next, hsaved]
    exact h
  isSome_fault := hrun.2
  files_eq _ := hrun.1

/-- An action advances if it ends with saving the values that are stored next. -/
theorem advances_of_saving (h : Holds env.files path stored) {config : Config} {m : ValueMap}
    (hrun : ∃ before behind, run env path action = saving env path config before behind)
    (hsaved : saved? stored action = some m)
    (hsame : config.values.forgetNaNSign = m.forgetNaNSign)
    (hrefused : action.isRefused = false) : Advances env path stored action := by
  obtain ⟨before, behind, hrun⟩ := hrun
  obtain ⟨hfault, hholds⟩ := holds_saving h.isStorable hsame before behind
  refine ⟨?_, ?_, fun hnone ↦ ?_⟩
  · rw [hrun, next, hsaved]
    exact hholds
  · rw [hrun, hfault, hrefused]
    rfl
  · rw [hsaved] at hnone
    cases hnone

end Advances

/-! ### Each action -/

theorem advances_list (h : Holds env.files path stored) : Advances env path stored .list := by
  obtain ⟨config, hload, -⟩ := h.exists_load
  refine advances_of_kept h rfl ?_
  rw [run, hload]
  exact ⟨rfl, rfl⟩

theorem advances_create (h : Holds env.files path stored) (force : Bool) :
    Advances env path stored (.create force) := by
  by_cases hkept : (stored.isSome && !force) = true
  · have hsaved : saved? stored (.create force) = none := by rw [saved?, if_pos hkept]
    refine advances_of_kept h hsaved ?_
    rw [run, runCreate, h.has_eq, if_pos hkept]
    exact ⟨rfl, rfl⟩
  · have hsaved : saved? stored (.create force) = some Config.starter.values := by
      rw [saved?, if_neg hkept]
    have hrun : ∃ before behind, run env path (.create force) =
        saving env path Config.starter before behind := by
      rw [run, runCreate, h.has_eq, if_neg hkept]
      exact ⟨_, _, rfl⟩
    exact advances_of_saving h hrun hsaved rfl rfl

/-- A set that is not refused saves the loaded values with the new one. -/
theorem advances_set (h : Holds env.files path stored) (name raw : Text) (sort : ValueSort) :
    Advances env path stored (.set name raw sort) := by
  by_cases hname : (Text.trim name).isEmpty = true
  · have hassignment : assignment? name raw sort = none := by rw [assignment?, if_pos hname]
    refine advances_of_kept h (by rw [saved?, hassignment]; rfl) ?_
    rw [run, runSet, if_pos hname, isRefused, hassignment]
    exact ⟨rfl, rfl⟩
  · cases hvalue : typedValue raw sort with
    | error failure =>
      have hassignment : assignment? name raw sort = none := by
        rw [assignment?, if_neg hname, hvalue]
      refine advances_of_kept h (by rw [saved?, hassignment]; rfl) ?_
      rw [run, runSet, if_neg hname, hvalue, isRefused, hassignment]
      exact ⟨rfl, rfl⟩
    | ok value =>
      obtain ⟨config, hload, hvalues⟩ := h.exists_load
      have hassignment : assignment? name raw sort = some (Text.trim name, value) := by
        rw [assignment?, if_neg hname, hvalue]
      have hsaved : saved? stored (.set name raw sort) =
          some ((stored.getD .empty).insert (Text.trim name) value) := by
        rw [saved?, hassignment]
        rfl
      have hsame : (config.values.insert (Text.trim name) value).forgetNaNSign =
          ((stored.getD .empty).insert (Text.trim name) value).forgetNaNSign := by
        rw [ValueMap.forgetNaNSign_insert, ValueMap.forgetNaNSign_insert, hvalues]
      have hrun : ∃ before behind, run env path (.set name raw sort) =
          saving env path (config.set (Text.trim name) value) before behind := by
        rw [run, runSet, if_neg hname, hvalue, hload]
        exact ⟨_, _, rfl⟩
      exact advances_of_saving h hrun hsaved hsame
        (by rw [isRefused, hassignment]; rfl)

/-- An unset saves the loaded values without the name if they have it, and nothing otherwise. -/
theorem advances_unset (h : Holds env.files path stored) (name : Text) :
    Advances env path stored (.unset name) := by
  obtain ⟨config, hload, hvalues⟩ := h.exists_load
  have hcontains := contains_of_load hvalues name
  by_cases hthere : (stored.getD .empty).contains name = true
  · obtain ⟨m, rfl⟩ : ∃ m, stored = some m := by
      cases stored with
      | none => cases hthere
      | some m => exact ⟨m, rfl⟩
    have hsaved : saved? (some m) (.unset name) = some (m.erase name) := if_pos hthere
    have hsame : (config.values.erase name).forgetNaNSign = (m.erase name).forgetNaNSign := by
      rw [ValueMap.forgetNaNSign_erase, ValueMap.forgetNaNSign_erase, hvalues]
      rfl
    have hrun : ∃ before behind, run env path (.unset name) =
        saving env path (config.unset name) before behind := by
      rw [run, runUnset, hload]
      dsimp only
      rw [hcontains, if_pos hthere]
      exact ⟨_, _, rfl⟩
    exact advances_of_saving h hrun hsaved hsame rfl
  · have hsaved : saved? stored (.unset name) = none := by
      cases stored with
      | none => rfl
      | some m => exact if_neg hthere
    refine advances_of_kept h hsaved ?_
    rw [run, runUnset, hload]
    dsimp only
    rw [hcontains, if_neg hthere]
    exact ⟨rfl, rfl⟩

/-- Every action takes the file from the stored values to the next ones. -/
theorem advances (h : Holds env.files path stored) (action : ConfigAction) :
    Advances env path stored action := by
  cases action with
  | list => exact advances_list h
  | path => exact advances_of_kept h rfl ⟨rfl, rfl⟩
  | create force => exact advances_create h force
  | set name raw sort => exact advances_set h name raw sort
  | unset name => exact advances_unset h name

/-! ### A run of actions -/

/-- What is at the path at first: nothing, where a file can be stored, or a file that holds a valid
configuration. -/
inductive Starts (files : FileSystem) (path : Text) : Option ValueMap → Prop
  | missing (hmissing : files.has path = false) (hstorable : files.IsStorable path) :
      Starts files path none
  | file {config : Config} (hgrounded : files.IsGrounded) (hfile : files.isFile path = true)
      (hload : Config.loadFrom files path = .ok config) : Starts files path (some config.values)

/-- A missing or valid configuration holds the values it starts with. -/
theorem Starts.holds {files : FileSystem} (h : Starts files path stored) :
    Holds files path stored := by
  cases h with
  | missing hmissing hstorable =>
    refine ⟨hstorable, hmissing, Config.empty, ?_, rfl⟩
    rw [Config.load, hmissing, if_neg Bool.false_ne_true]
  | @file config hgrounded hfile hload =>
    have hhas : files.has path = true := by
      unfold FileSystem.isFile at hfile
      unfold FileSystem.has
      split at hfile
      · rename_i hnode
        rw [hnode]
        rfl
      · cases hfile
    refine ⟨FileSystem.isStorable_of_isFile hgrounded hfile, hhas, config, ?_, rfl⟩
    rw [Config.load, if_pos hhas, hload]

/-- A run of actions takes the file through all the values that they store. -/
theorem holds_filesAfter {files : FileSystem} (h : Holds files path stored)
    (actions : List ConfigAction) :
    Holds (filesAfter { env with files } path actions) path (actions.foldl next stored) := by
  induction actions generalizing files stored with
  | nil => exact h
  | cons action rest ih => exact ih (@advances { env with files } path stored h action).holds

/-- A set that is refused saves nothing. -/
theorem saved?_of_isRefused {action : ConfigAction} (h : action.isRefused = true) :
    saved? stored action = none := by
  cases action with
  | set name raw sort =>
    rw [isRefused, Option.isNone_iff_eq_none] at h
    rw [saved?, h, Option.map_none]
  | create force => cases h
  | list => cases h
  | path => cases h
  | unset name => cases h

/-- Whether a run of actions on the configuration at a path does what the actions do to a map. What
is loaded behind it are the values that the actions make of the stored ones, each action fails if
and only if it is a set that is refused, and one that is refused or saves nothing leaves all files
as they were. -/
structure RunsOnMap (env : Environment) (path : Text) (stored : Option ValueMap)
    (actions : List ConfigAction) : Prop where
  exists_load : ∃ config, Config.load (filesAfter env path actions) path = .ok config ∧
    config.values.forgetNaNSign = ((actions.foldl next stored).getD .empty).forgetNaNSign
  isSome_fault : ∀ done action rest, actions = done ++ action :: rest →
    (run { env with files := filesAfter env path done } path action).fault.isSome =
      action.isRefused
  files_eq : ∀ done action rest, actions = done ++ action :: rest →
    action.isRefused = true ∨ saved? (done.foldl next stored) action = none →
      (run { env with files := filesAfter env path done } path action).files =
        filesAfter env path done

/-- A run of actions on a file that holds certain values does what the actions do to a map. -/
theorem Holds.runs (h : Holds env.files path stored) (actions : List ConfigAction) :
    RunsOnMap env path stored actions := by
  have hstep : ∀ done action rest, actions = done ++ action :: rest →
      Advances { env with files := filesAfter env path done } path (done.foldl next stored)
        action := by
    rintro done action rest rfl
    exact advances (holds_filesAfter h done) action
  exact
    { exists_load := (holds_filesAfter h actions).exists_load
      isSome_fault := fun done action rest h ↦ (hstep done action rest h).isSome_fault
      files_eq := fun done action rest h hunsaved ↦
        (hstep done action rest h).files_eq (hunsaved.elim saved?_of_isRefused id) }

end PromptTemplate.ConfigAction
