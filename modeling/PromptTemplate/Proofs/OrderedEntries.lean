import Mathlib.Data.List.Sort
import PromptTemplate.ValueMap

/-!
A map as its entries in ascending order. The entries are determined by the values that the names
have (`eq_of_get?_eq`), and a map is what becomes of its entries when they are put into an empty one
(`ofList_entries`). Of several entries that are put into a map the last one for a name counts
(`get?_insertAll`). So a second layer is preferred wherever it has a name, and it makes no
difference in which order three layers are put together (`get?_layered`, `layered_assoc`).
-/

set_option autoImplicit false
set_option relaxedAutoImplicit false

namespace PromptTemplate.ValueMap

/-! ### Maps that are equal -/

theorem eq_of_entries_eq {m other : ValueMap} (h : m.entries = other.entries) : m = other := by
  cases m
  cases other
  cases h
  rfl

theorem nodup_names (m : ValueMap) : m.names.Nodup := by
  rw [names, List.Nodup, List.pairwise_map]
  refine m.ascending.imp fun {a b} hlt heq ↦ ?_
  rw [heq] at hlt
  exact List.lt_irrefl _ hlt

/-- The entries of a map are its names with the values that they have. -/
theorem mem_entries_iff {m : ValueMap} {entry : Text × Value} :
    entry ∈ m.entries ↔ m.get? entry.1 = some entry.2 := by
  constructor
  · intro hentry
    obtain ⟨found, hfound⟩ :
        ∃ found, (m.entries.find? fun other ↦ other.1 = entry.1) = some found :=
      Option.isSome_iff_exists.mp (List.find?_isSome.mpr ⟨entry, hentry, by simp⟩)
    have hname : found.1 = entry.1 := by simpa using List.find?_some hfound
    have hsame : found = entry :=
      List.inj_on_of_nodup_map m.nodup_names (List.mem_of_find?_eq_some hfound) hentry hname
    rw [get?, hfound, hsame, Option.map_some]
  · intro h
    obtain ⟨found, hfound, hvalue⟩ := Option.map_eq_some_iff.mp h
    have hname : found.1 = entry.1 := by simpa using List.find?_some hfound
    have hsame : found = entry := Prod.ext hname hvalue
    exact hsame ▸ List.mem_of_find?_eq_some hfound

/-- Maps that have the same values are the same. -/
theorem eq_of_get?_eq {m other : ValueMap} (h : ∀ name, m.get? name = other.get? name) :
    m = other := by
  have hirrefl : Std.Irrefl fun a b : Text × Value ↦ a.1 < b.1 := ⟨fun a ↦ List.lt_irrefl a.1⟩
  have hantisymm : Std.Antisymm fun a b : Text × Value ↦ a.1 < b.1 :=
    ⟨fun a b hab hba ↦ absurd hba (List.lt_asymm hab)⟩
  refine eq_of_entries_eq (m.ascending.eq_of_mem_iff other.ascending fun entry ↦ ?_)
  rw [mem_entries_iff, mem_entries_iff, h]

/-! ### Entries that are put into a map -/

/-- An entry whose name is behind all others is put at the end. -/
theorem insertEntry_eq_append {name : Text} (value : Value) {entries : List (Text × Value)}
    (h : ∀ entry ∈ entries, entry.1 < name) :
    insertEntry name value entries = entries ++ [(name, value)] := by
  induction entries with
  | nil => rfl
  | cons entry entries ih =>
    have hlt : entry.1 < name := h entry List.mem_cons_self
    have hne : name ≠ entry.1 := by
      rintro rfl
      exact List.lt_irrefl _ hlt
    rw [insertEntry, if_neg (List.lt_asymm hlt), if_neg hne,
      ih fun other hmem ↦ h other (List.mem_cons_of_mem _ hmem)]
    rfl

/-- Entries that ascend behind those of a map are put behind them. -/
theorem entries_insertAll {m : ValueMap} {more : List (Text × Value)}
    (h : (m.entries ++ more).Pairwise fun a b ↦ a.1 < b.1) :
    (m.insertAll more).entries = m.entries ++ more := by
  induction more generalizing m with
  | nil => exact (List.append_nil _).symm
  | cons entry more ih =>
    have hlast : (m.insert entry.1 entry.2).entries = m.entries ++ [entry] :=
      insertEntry_eq_append entry.2 fun other hmem ↦
        (List.pairwise_append.mp h).2.2 other hmem entry List.mem_cons_self
    have hrest := ih (m := m.insert entry.1 entry.2) (by
      rw [hlast, List.append_assoc]
      exact h)
    rw [hlast, List.append_assoc] at hrest
    exact hrest

/-- The map of the entries of a map is that map. -/
theorem ofList_entries (m : ValueMap) : ofList m.entries = m :=
  eq_of_entries_eq (entries_insertAll (m := empty) m.ascending)

/-- The value of the last entry for a name. -/
def last? (entries : List (Text × Value)) (name : Text) : Option Value :=
  entries.reverse.findSome? fun entry ↦ if entry.1 = name then some entry.2 else none

/-- The last value of a name in two lists is the one in the second list, if there is one. -/
theorem last?_append (entries more : List (Text × Value)) (name : Text) :
    last? (entries ++ more) name = (last? more name).or (last? entries name) := by
  rw [last?, List.reverse_append, List.findSome?_append]
  rfl

/-- Of several entries that are put into a map the last one for a name counts. -/
theorem get?_insertAll (m : ValueMap) (entries : List (Text × Value)) (name : Text) :
    (m.insertAll entries).get? name = (last? entries name).or (m.get? name) := by
  induction entries generalizing m with
  | nil => rfl
  | cons entry entries ih =>
    have hhead : last? (entry :: entries) name =
        (last? entries name).or (last? [entry] name) := last?_append [entry] entries name
    have hone : (m.insert entry.1 entry.2).get? name =
        (last? [entry] name).or (m.get? name) := by
      rw [get?_insert, last?]
      by_cases hname : entry.1 = name
      · simp [hname]
      · simp [hname, Ne.symm hname]
    rw [hhead, Option.or_assoc, ← hone]
    exact ih _

/-- A map that is made of entries has the last value for each name. -/
theorem get?_ofList (entries : List (Text × Value)) (name : Text) :
    (ofList entries).get? name = last? entries name := by
  rw [ofList, get?_insertAll]
  exact Option.or_none

/-! ### Layers -/

/-- The second layer is preferred wherever it has a name. -/
theorem get?_layered (m overrides : ValueMap) (name : Text) :
    (m.layered overrides).get? name = (overrides.get? name).or (m.get? name) := by
  rw [layered, get?_insertAll, ← get?_ofList, ofList_entries]

/-- It does not matter which of three maps are layered first. -/
theorem layered_assoc (a b c : ValueMap) : (a.layered b).layered c = a.layered (b.layered c) := by
  refine eq_of_get?_eq fun name ↦ ?_
  rw [get?_layered, get?_layered, get?_layered, get?_layered, Option.or_assoc]

end PromptTemplate.ValueMap
