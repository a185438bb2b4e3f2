import PromptTemplate.Proofs.OrderedEntries
import PromptTemplate.Proofs.StoredFiles
import PromptTemplate.Proofs.TomlEntries

/-!
A configuration that is saved is loaded again. The text of a configuration is read as the same names
with the same values (`ofTomlText_toTomlText`): the lines are read one by one, the entries that they
define are all values, and the map of entries in ascending order is the map that they are from
(`ValueMap.ofList_entries`). What is saved at a path is what is loaded from there (`loadFrom_save`).
-/

set_option autoImplicit false
set_option relaxedAutoImplicit false

namespace PromptTemplate

namespace ValueMap

/-- Entries that are written for a map are read as the map, but for the signs of what is not a
number. -/
theorem ofEntries_toToml (m : ValueMap) :
    ofEntries Value.ofToml? (m.entries.map fun entry ↦ (entry.1, entry.2.toToml)) =
      .ok m.forgetNaNSign := by
  have hentries : ∀ entries : List (Text × Value),
      (entries.map fun entry ↦ (entry.1, entry.2.toToml)).mapM (entry Value.ofToml?) =
        .ok (entries.map fun entry ↦ (entry.1, entry.2.forgetNaNSign)) := by
    intro entries
    induction entries with
    | nil => rfl
    | cons first rest ih =>
      have hfirst : entry Value.ofToml? (first.1, first.2.toToml) =
          .ok (first.1, first.2.forgetNaNSign) := by
        rw [entry, Value.ofToml?_toToml]
      rw [List.map_cons, List.mapM_cons, hfirst, ih]
      rfl
  rw [ofEntries, hentries]
  exact congrArg Except.ok (ofList_entries m.forgetNaNSign)

end ValueMap

namespace Config

/-- What is written of a configuration is read as the configuration, but for the signs of what is
not a number. -/
theorem ofTomlText_toTomlText (config : Config) :
    ofTomlText config.toTomlText = .ok ⟨config.values.forgetNaNSign⟩ := by
  cases hempty : config.values.isEmpty with
  | true =>
    obtain ⟨values⟩ := config
    have hvalues : values = .empty := ValueMap.eq_of_entries_eq (List.isEmpty_iff.mp hempty)
    rw [hvalues]
    rfl
  | false =>
    have hfind : Toml.find? "values".toList [("values".toList, Toml.table .header
        (config.values.entries.map fun entry ↦ (entry.1, entry.2.toToml)))] =
        some (.table .header
          (config.values.entries.map fun entry ↦ (entry.1, entry.2.toToml))) := rfl
    rw [toTomlText, hempty, if_neg Bool.false_ne_true, ofTomlText,
      Toml.ofText?_writeEntries config.values.nodup_names]
    dsimp only
    rw [hfind]
    dsimp only
    rw [ValueMap.ofEntries_toToml]
    rfl

/-- Where the text of a configuration is read, the configuration is loaded. -/
theorem loadFrom_of_read {config : Config} {fs : FileSystem} {path : Text}
    (hread : fs.read path = .ok (.text config.toTomlText)) :
    loadFrom fs path = .ok ⟨config.values.forgetNaNSign⟩ := by
  rw [loadFrom, FileSystem.readText, hread]
  dsimp only [Except.bind]
  rw [ofTomlText_toTomlText]

/-- A configuration is saved wherever a file can be stored, and what is loaded from there has the
same names with the same values, but for the signs of what is not a number. -/
theorem loadFrom_save (config : Config) (fs : FileSystem) (path : Text) :
    ((config.save fs path).2 = none ↔ fs.IsStorable path) ∧
      ((config.save fs path).2 = none →
        loadFrom (config.save fs path).1 path = .ok ⟨config.values.forgetNaNSign⟩) := by
  have hload : fs.IsStorable path → (config.save fs path).2 = none ∧
      loadFrom (config.save fs path).1 path = .ok ⟨config.values.forgetNaNSign⟩ := by
    intro hpath
    obtain ⟨stored, hstore, -, -, hread⟩ :=
      FileSystem.store_of_isStorable hpath (.text config.toTomlText)
    rw [save, hstore]
    exact ⟨rfl, loadFrom_of_read hread⟩
  exact ⟨⟨FileSystem.isStorable_of_store, fun hpath ↦ (hload hpath).1⟩,
    fun hsaved ↦ (hload (FileSystem.isStorable_of_store hsaved)).2⟩

/-- Names and texts that need quotes, escapes or several lines, texts that look like other values,
and numbers from the ends of their range. -/
def manyForms : Config :=
  ⟨.ofList [([], .text []), ("a.b".toList, .text "it's \"so\"\n".toList),
    ("\"'\\".toList, .text "\"\"\"\"'''\r\x01".toList), ("-1".toList, .text "-1".toList),
    ("true".toList, .text "true".toList), ("yes".toList, .bool true),
    ("zero".toList, .number (.zero true)), ("tenth".toList, .number (.ofDecimal false 1 (-1))),
    ("end".toList, .number (.infinity true)), ("none".toList, .number (.nan true))]⟩

/-- A configuration with values of many forms is saved in an empty tree and loaded again. -/
theorem loadFrom_save_manyForms :
    (manyForms.save ⟨⟨[]⟩, []⟩ "c/config.toml".toList).2 = none ∧
      loadFrom (manyForms.save ⟨⟨[]⟩, []⟩ "c/config.toml".toList).1 "c/config.toml".toList =
        .ok ⟨manyForms.values.forgetNaNSign⟩ := by
  have hpath : (⟨⟨[]⟩, []⟩ : FileSystem).IsStorable "c/config.toml".toList :=
    FileSystem.isStorable_of_store (by decide :
      (FileSystem.store ⟨⟨[]⟩, []⟩ "c/config.toml".toList (.text []) "" "").2 = none)
  have hload := loadFrom_save manyForms ⟨⟨[]⟩, []⟩ "c/config.toml".toList
  exact ⟨hload.1.mpr hpath, hload.2 (hload.1.mpr hpath)⟩

end Config

end PromptTemplate
