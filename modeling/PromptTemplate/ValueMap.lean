import PromptTemplate.Value

/-!
Values by name. A map is the list of its entries in ascending order of the names, so two
maps with the same entries are the same list. `get?_insert` and `get?_erase` say what each
change does to every name, and `layered` prefers its second map.
-/

set_option autoImplicit false
set_option relaxedAutoImplicit false

namespace PromptTemplate

/-- A finite map from names to values. -/
structure ValueMap where
  entries : List (Text × Value)
  ascending : entries.Pairwise fun a b ↦ a.1 < b.1

namespace ValueMap

instance : DecidableEq ValueMap := fun a b ↦
  if h : a.entries = b.entries then
    .isTrue (by cases a; cases b; simp_all)
  else .isFalse fun heq ↦ h (by rw [heq])

def empty : ValueMap := ⟨[], List.Pairwise.nil⟩

/-- Puts an entry in its place, instead of an entry of that name. -/
def insertEntry (name : Text) (value : Value) : List (Text × Value) → List (Text × Value)
  | [] => [(name, value)]
  | entry :: rest =>
    if name < entry.1 then (name, value) :: entry :: rest
    else if name = entry.1 then (name, value) :: rest
    else entry :: insertEntry name value rest

/-- An entry behind an insertion is the new one or was there before. -/
theorem mem_insertEntry {name : Text} {value : Value} {entries : List (Text × Value)}
    {entry : Text × Value} (h : entry ∈ insertEntry name value entries) :
    entry = (name, value) ∨ entry ∈ entries := by
  induction entries with
  | nil => simpa [insertEntry] using h
  | cons first rest ih =>
    simp only [insertEntry] at h
    split at h
    · simpa using h
    · split at h
      · rcases List.mem_cons.mp h with h | h
        · exact .inl h
        · exact .inr (List.mem_cons_of_mem _ h)
      · rcases List.mem_cons.mp h with h | h
        · exact .inr (h ▸ List.mem_cons_self)
        · exact (ih h).imp id (List.mem_cons_of_mem _)

/-- An insertion keeps the names in ascending order. -/
theorem insertEntry_ascending (name : Text) (value : Value) {entries : List (Text × Value)}
    (h : entries.Pairwise fun a b ↦ a.1 < b.1) :
    (insertEntry name value entries).Pairwise fun a b ↦ a.1 < b.1 := by
  induction entries with
  | nil => simp [insertEntry]
  | cons first rest ih =>
    obtain ⟨hfirst, hrest⟩ := List.pairwise_cons.mp h
    simp only [insertEntry]
    split
    · rename_i hlt
      refine List.pairwise_cons.mpr ⟨fun entry hentry ↦ ?_, h⟩
      rcases List.mem_cons.mp hentry with rfl | hentry
      · exact hlt
      · exact List.lt_trans hlt (hfirst entry hentry)
    · split
      · rename_i heq
        exact List.pairwise_cons.mpr ⟨fun entry hentry ↦ heq ▸ hfirst entry hentry, hrest⟩
      · rename_i hnlt hne
        refine List.pairwise_cons.mpr ⟨fun entry hentry ↦ ?_, ih hrest⟩
        rcases mem_insertEntry hentry with rfl | hentry
        · exact Std.lt_of_le_of_ne (Std.not_lt.mp hnlt) (fun heq ↦ hne heq.symm)
        · exact hfirst entry hentry

/-- The map with a value for a name, whatever it had for it before. -/
def insert (m : ValueMap) (name : Text) (value : Value) : ValueMap :=
  ⟨insertEntry name value m.entries, insertEntry_ascending name value m.ascending⟩

/-- The map without a value for a name. -/
def erase (m : ValueMap) (name : Text) : ValueMap :=
  ⟨m.entries.filter fun entry ↦ entry.1 ≠ name, m.ascending.filter _⟩

/-- The value for a name. -/
def get? (m : ValueMap) (name : Text) : Option Value :=
  (m.entries.find? fun entry ↦ entry.1 = name).map (·.2)

/-- A value that is set is what its name has, and all other names have what they had. -/
theorem get?_insert (m : ValueMap) (name other : Text) (value : Value) :
    (m.insert name value).get? other = if other = name then some value else m.get? other := by
  obtain ⟨entries, ascending⟩ := m
  simp only [insert, get?]
  clear ascending
  induction entries with
  | nil =>
    by_cases h : name = other
    · simp [insertEntry, h]
    · simp [insertEntry, h, Ne.symm h]
  | cons first rest ih =>
    by_cases hother : other = name
    · subst hother
      simp only [insertEntry]
      split
      · simp
      · split
        · simp
        · rename_i hne
          simpa [List.find?_cons, Ne.symm hne] using ih
    · simp only [insertEntry]
      split
      · simp [List.find?_cons, Ne.symm hother]
      · split
        · rename_i heq
          simp [heq ▸ Ne.symm hother, Ne.symm hother]
        · rw [if_neg hother] at ih
          by_cases hfirst : first.1 = other
          · simp [hfirst]
          · simpa [List.find?_cons, hfirst] using ih

/-- A name that is erased has nothing, and all other names have what they had. -/
theorem get?_erase (m : ValueMap) (name other : Text) :
    (m.erase name).get? other = if other = name then none else m.get? other := by
  simp only [erase, get?, List.find?_filter]
  split
  · rename_i h
    subst h
    simp
  · rename_i h
    congr 2
    funext entry
    by_cases hentry : entry.1 = other
    · simp [hentry, h]
    · simp [hentry]

def contains (m : ValueMap) (name : Text) : Bool := (m.get? name).isSome

def size (m : ValueMap) : Nat := m.entries.length

def isEmpty (m : ValueMap) : Bool := m.entries.isEmpty

/-- The names in ascending order. -/
def names (m : ValueMap) : List Text := m.entries.map (·.1)

/-- The map with more entries; of two for a name the later one stays. -/
def insertAll (m : ValueMap) (entries : List (Text × Value)) : ValueMap :=
  entries.foldl (fun m entry ↦ m.insert entry.1 entry.2) m

def ofList (entries : List (Text × Value)) : ValueMap := empty.insertAll entries

/-- The entries of both maps, where those of the second one win. -/
def layered (m overrides : ValueMap) : ValueMap := m.insertAll overrides.entries

/-- Whether two maps have the same names with equal values. -/
def equals (m other : ValueMap) : Bool :=
  m.names == other.names &&
    (m.entries.zip other.entries).all fun (a, b) ↦ a.2.equals b.2

end ValueMap

end PromptTemplate
