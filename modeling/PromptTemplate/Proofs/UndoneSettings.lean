import PromptTemplate.Proofs.ConfigurationRuns

/-!
Setting a value and unsetting it again. Behind a set and an unset with the same argument the
configuration has what it had before and the value that was set, but nothing under the argument as
it is given. The value was set under the argument without the blanks around it, so the set is undone
if and only if there are none (`setThenUnset_of_typedValue`).
-/

set_option autoImplicit false
set_option relaxedAutoImplicit false

namespace PromptTemplate

/-- A value that is set and erased again is gone, with what was there before. -/
theorem ValueMap.erase_insert (m : ValueMap) (name : Text) (value : Value) :
    (m.insert name value).erase name = m.erase name := by
  refine eq_of_get?_eq fun other ↦ ?_
  rw [get?_erase, get?_erase, get?_insert]
  split
  · rfl
  · rfl

/-- A value that is set is still there when another name is erased. -/
theorem ValueMap.contains_erase_insert (m : ValueMap) {name other : Text} (value : Value)
    (hne : other ≠ name) : ((m.insert other value).erase name).contains other = true := by
  rw [contains, get?_erase, if_neg hne, get?_insert, if_pos rfl]
  rfl

theorem ValueMap.erase_of_not_contains {m : ValueMap} {name : Text} (h : ¬ m.contains name = true) :
    m.erase name = m := by
  refine eq_of_get?_eq fun other ↦ ?_
  rw [get?_erase]
  split
  · rename_i hname
    rw [hname, eq_comm, ← Option.not_isSome_iff_eq_none]
    exact h
  · rfl

namespace ConfigAction

variable {env : Environment} {path : Text} {stored : Option ValueMap}

/-! ### A set and an unset -/

/-- Whether a set and an unset with the same name succeed, and what is stored behind them is what
was stored before with the value under the name without blanks around it and without the name as it
is given. This is what was stored before without the name that was set exactly if there are no
blanks. -/
structure SetThenUnset (env : Environment) (path : Text) (stored : Option ValueMap)
    (name raw : Text) (sort : ValueSort) (value : Value) : Prop where
  fault_set : (run env path (.set name raw sort)).fault = none
  fault_unset : (run { env with files := filesAfter env path [.set name raw sort] } path
    (.unset name)).fault = none
  exists_load : ∃ config,
    Config.load (filesAfter env path [.set name raw sort, .unset name]) path = .ok config ∧
      config.values.forgetNaNSign =
        (((stored.getD .empty).insert (Text.trim name) value).erase name).forgetNaNSign ∧
      (config.values.forgetNaNSign =
          ((stored.getD .empty).erase (Text.trim name)).forgetNaNSign ↔ Text.trim name = name)

/-- A set that is accepted is undone by an unset with the same name exactly if the name has no
blanks around it. -/
theorem setThenUnset_of_typedValue (hstart : Starts env.files path stored) {name raw : Text}
    {sort : ValueSort} {value : Value} (hname : (Text.trim name).isEmpty = false)
    (hvalue : typedValue raw sort = .ok value) :
    SetThenUnset env path stored name raw sort value := by
  have hassignment : assignment? name raw sort = some (Text.trim name, value) := by
    rw [assignment?, hname, if_neg Bool.false_ne_true, hvalue]
  have hruns := hstart.holds.runs [.set name raw sort, .unset name]
  have hset := hruns.isSome_fault [] (.set name raw sort) [.unset name] rfl
  have hunset := hruns.isSome_fault [.set name raw sort] (.unset name) [] rfl
  rw [isRefused, hassignment, Option.isNone_some, Option.isSome_eq_false_iff,
    Option.isNone_iff_eq_none] at hset
  rw [isRefused, Option.isSome_eq_false_iff, Option.isNone_iff_eq_none] at hunset
  obtain ⟨config, hload, hvalues⟩ := hruns.exists_load
  have hstored : (([.set name raw sort, .unset name] : List ConfigAction).foldl next stored).getD
      .empty = ((stored.getD .empty).insert (Text.trim name) value).erase name := by
    have hnext : next stored (.set name raw sort) =
        some ((stored.getD .empty).insert (Text.trim name) value) := by
      rw [next, saved?, hassignment]
      rfl
    rw [List.foldl_cons, hnext, List.foldl_cons, List.foldl_nil, next, saved?, Option.bind_some]
    split
    · rfl
    · rename_i hmissing
      exact (ValueMap.erase_of_not_contains hmissing).symm
  rw [hstored] at hvalues
  refine ⟨hset, hunset, config, hload, hvalues, fun hundone ↦ ?_, fun htrim ↦ ?_⟩
  · by_contra hne
    have hthere := ValueMap.contains_erase_insert (stored.getD .empty) value hne
    rw [← ValueMap.contains_forgetNaNSign, ← hvalues, hundone, ValueMap.contains_forgetNaNSign,
      ValueMap.contains, ValueMap.get?_erase, if_pos rfl] at hthere
    cases hthere
  · rw [hvalues, htrim, ValueMap.erase_insert]

theorem starts_emptyTree : Starts ⟨⟨[]⟩, []⟩ "c.toml".toList none :=
  .missing (by decide) (FileSystem.isStorable_of_store (by decide :
    (FileSystem.store ⟨⟨[]⟩, []⟩ "c.toml".toList (.text []) "" "").2 = none))

/-- A number is set where there is no configuration, and unset again. -/
theorem setThenUnset_of_typedValue_number :
    typedValue " 1e-1 ".toList .number = .ok (.number (.ofDecimal false 1 (-1))) ∧
      SetThenUnset ⟨⟨⟨[]⟩, []⟩, none, .text []⟩ "c.toml".toList none "Creativity".toList
        " 1e-1 ".toList .number (.number (.ofDecimal false 1 (-1))) :=
  ⟨rfl, setThenUnset_of_typedValue starts_emptyTree (by decide) rfl⟩

/-- The value is set under the name without the blanks, and the unset finds nothing under the name
with them. -/
theorem load_unset_blanks : ∃ env path actions, env = ⟨⟨⟨[]⟩, []⟩, none, .text []⟩ ∧
    path = "c.toml".toList ∧
      actions = [.set " Tone ".toList "dry".toList .text, .unset " Tone ".toList] ∧
      Starts env.files path none ∧ Config.load env.files path = .ok Config.empty ∧
      Config.load (filesAfter env path actions) path =
        .ok ⟨ValueMap.empty.insert "Tone".toList (.text "dry".toList)⟩ :=
  ⟨_, _, _, rfl, rfl, rfl, starts_emptyTree, rfl, rfl⟩

end ConfigAction

end PromptTemplate
