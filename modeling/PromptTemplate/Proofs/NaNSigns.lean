import PromptTemplate.Config
import PromptTemplate.Proofs.OrderedEntries

/-!
Values up to the signs of what is not a number. Such a sign means nothing and is not written, so a
configuration that is read back has the values that were saved but for these signs. Forgetting the
signs goes together with everything that is done to a map.
-/

set_option autoImplicit false
set_option relaxedAutoImplicit false

namespace PromptTemplate

/-- The number without a sign if it is none. -/
def Binary64.forgetNaNSign : Binary64 → Binary64
  | .nan _ => .nan false
  | .infinity negative => .infinity negative
  | .finite negative significand exponent canonical =>
    .finite negative significand exponent canonical

/-- The value without a sign if it is a number that is none. -/
def Value.forgetNaNSign : Value → Value
  | .bool b => .bool b
  | .number x => .number x.forgetNaNSign
  | .text t => .text t

namespace ValueMap

/-- The map with the same names, and their values without the signs of what is not a number. -/
def forgetNaNSign (m : ValueMap) : ValueMap where
  entries := m.entries.map fun entry ↦ (entry.1, entry.2.forgetNaNSign)
  ascending := List.pairwise_map.mpr m.ascending

/-- Signs that are forgotten are gone. -/
theorem forgetNaNSign_forgetNaNSign (m : ValueMap) :
    m.forgetNaNSign.forgetNaNSign = m.forgetNaNSign := by
  have hvalue : ∀ value : Value, value.forgetNaNSign.forgetNaNSign = value.forgetNaNSign := by
    intro value
    cases value with
    | bool b => rfl
    | number x => cases x <;> rfl
    | text t => rfl
  refine eq_of_entries_eq ?_
  change (m.entries.map _).map _ = m.entries.map _
  rw [List.map_map]
  exact List.map_congr_left fun entry _ ↦ Prod.ext rfl (hvalue entry.2)

theorem map_insertEntry (f : Value → Value) (name : Text) (value : Value)
    (entries : List (Text × Value)) :
    (insertEntry name value entries).map (fun entry ↦ (entry.1, f entry.2)) =
      insertEntry name (f value) (entries.map fun entry ↦ (entry.1, f entry.2)) := by
  induction entries with
  | nil => rfl
  | cons entry rest ih =>
    rw [insertEntry, List.map_cons, insertEntry]
    split
    · rfl
    · split
      · rfl
      · rw [List.map_cons, ih]

/-- A value can be set before or after forgetting the signs. -/
theorem forgetNaNSign_insert (m : ValueMap) (name : Text) (value : Value) :
    (m.insert name value).forgetNaNSign = m.forgetNaNSign.insert name value.forgetNaNSign :=
  eq_of_entries_eq (map_insertEntry _ name value m.entries)

/-- A name can be erased before or after forgetting the signs. -/
theorem forgetNaNSign_erase (m : ValueMap) (name : Text) :
    (m.erase name).forgetNaNSign = m.forgetNaNSign.erase name := by
  refine eq_of_entries_eq ?_
  change (m.entries.filter _).map _ = (m.entries.map _).filter _
  rw [List.filter_map]
  rfl

theorem contains_forgetNaNSign (m : ValueMap) (name : Text) :
    m.forgetNaNSign.contains name = m.contains name := by
  change (Option.map _ ((m.entries.map _).find? _)).isSome = _
  rw [List.find?_map]
  simp [contains, get?, Function.comp_def]

end ValueMap

end PromptTemplate
