import PromptTemplate.Proofs.NumbersReadBack
import PromptTemplate.Proofs.TomlStrings

/-!
Lines of a configuration that are read. A value is read from what is written for it up to the end of
its line (`readValue?_writeValue`), a name up to the blank behind it (`readKey?_writeKey`), and with
both a line adds its entry to the table that was opened last (`readAll?_writeEntry`). The lines of
entries with different names so add all of them in their order (`readAll?_writeEntries`).
-/

set_option autoImplicit false
set_option relaxedAutoImplicit false

namespace PromptTemplate

/-- A value as a document has it. -/
def Value.toToml : Value → Toml
  | .bool b => .bool b
  | .number x => .real x.forgetNaNSign
  | .text t => .text t

/-- A value is read from what is written for it, but for the sign of what is not a number. -/
theorem Value.ofToml?_toToml (value : Value) : ofToml? value.toToml = some value.forgetNaNSign := by
  cases value <;> rfl

namespace Toml

/-! ### Words -/

/-- Letters, digits, points, dashes and underscores. -/
def isPlain (c : Char) : Bool := isBare c || c == '.'

theorem isPlain_of_isBare {c : Char} (h : isBare c = true) : isPlain c = true := by
  rw [isPlain, h, Bool.true_or]

theorem isPlain_of_isDigit {c : Char} (h : c.isDigit = true) : isPlain c = true := by
  simp only [isPlain, isBare, Char.isAlphanum, h, Bool.or_true, Bool.true_or]

theorem ne_of_isPlain {c d : Char} (hc : isPlain c = true) (hd : isPlain d = false) : c ≠ d := by
  rintro rfl
  exact Bool.false_ne_true (hd.symm.trans hc)

theorem endsWord_eq_false {c : Char} (hc : isPlain c = true) : endsWord c = false := by
  have hne : ∀ d, isPlain d = false → (c == d) = false :=
    fun d hd ↦ beq_eq_false_iff_ne.mpr (ne_of_isPlain hc hd)
  simp only [endsWord, hne ' ' rfl, hne '\t' rfl, hne '\n' rfl, hne '\r' rfl, hne ',' rfl,
    hne ']' rfl, hne '}' rfl, hne '#' rfl, hne '=' rfl, Bool.or_false]

theorem isBlank_eq_false {c : Char} (hc : isPlain c = true) : isBlank c = false := by
  have hspace : (c == ' ') = false := beq_eq_false_iff_ne.mpr (ne_of_isPlain hc rfl)
  have htab : (c == '\t') = false := beq_eq_false_iff_ne.mpr (ne_of_isPlain hc rfl)
  rw [isBlank, hspace, htab, Bool.or_false]

/-- A word goes on to the end of its line. -/
theorem readWord_append {w : Text} (hw : w.all isPlain = true) (t : Text) :
    readWord (w ++ '\n' :: t) = (w, '\n' :: t) := by
  have hinside : ∀ c ∈ w, (!endsWord c) = true := by
    intro c hc
    rw [endsWord_eq_false (List.all_eq_true.mp hw c hc), Bool.not_false]
  obtain ⟨htake, hdrop⟩ := Text.takeWhile_dropWhile_append (c := '\n') hinside rfl t
  simp only [readWord, htake, hdrop]
  split
  · rename_i hrest
    exact absurd (List.cons.inj hrest).1 (by decide)
  · rfl

/-- A word is read as the value that it spells. -/
theorem readValue?_word {w : Text} (hw : w.all isPlain = true) (hne : w ≠ []) (t : Text)
    (fuel depth : Nat) :
    readValue? (fuel + 1) depth (w ++ '\n' :: t) = (ofWord? w).map (·, '\n' :: t) := by
  obtain ⟨c, w', hcons⟩ := List.exists_cons_of_ne_nil hne
  have hc : isPlain c = true := List.all_eq_true.mp hw c (hcons ▸ List.mem_cons_self)
  have hother : ∀ d, isPlain d = false → ∀ u, w ++ '\n' :: t ≠ d :: u := by
    intro d hd u heq
    rw [hcons, List.cons_append] at heq
    exact ne_of_isPlain hc hd (List.cons.inj heq).1
  rw [readValue?, readWord_append hw]
  · exact fun u ↦ hother '"' rfl _
  · exact fun u ↦ hother '"' rfl _
  · exact fun u ↦ hother '\'' rfl _
  · exact fun u ↦ hother '\'' rfl _
  · exact fun u ↦ hother '[' rfl _
  · exact fun u ↦ hother '\x7b' rfl _

/-- A number is written with plain characters. -/
theorem all_isPlain_writeNumber (x : Binary64) : (writeNumber x).all isPlain = true := by
  cases x with
  | nan negative => rfl
  | infinity negative => cases negative <;> rfl
  | finite negative significand exponent canonical =>
    obtain ⟨whole, fraction, hwhole, hfraction, -, hwritten, -⟩ :=
      exists_writeNumber negative canonical
    rw [hwritten, List.all_eq_true]
    intro c hc
    rcases mem_signedReal hwhole hfraction hc with hdigit | rfl | rfl
    · exact isPlain_of_isDigit hdigit
    · rfl
    · rfl

theorem writeNumber_ne_nil (x : Binary64) : writeNumber x ≠ [] := by
  cases x with
  | nan negative => exact List.cons_ne_nil _ _
  | infinity negative => cases negative <;> exact List.cons_ne_nil _ _
  | finite negative significand exponent canonical =>
    obtain ⟨whole, fraction, -, -, -, hwritten, -⟩ :=
      exists_writeNumber negative canonical
    rw [hwritten, signedReal]
    simp

/-- A value is read from what is written for it up to the end of its line. -/
theorem readValue?_writeValue (value : Value) (t : Text) (fuel depth : Nat) :
    readValue? (fuel + 1) depth (Config.writeValue value ++ '\n' :: t) =
      some (value.toToml, '\n' :: t) := by
  cases value with
  | bool b =>
    cases b with
    | true => exact readValue?_word rfl (List.cons_ne_nil _ _) t _ _
    | false => exact readValue?_word rfl (List.cons_ne_nil _ _) t _ _
  | number x =>
    rw [Config.writeValue, readValue?_word (all_isPlain_writeNumber x) (writeNumber_ne_nil x),
      ofWord?_writeNumber x]
    rfl
  | text s => exact readValue?_writeText s (by simp) (by simp) fuel depth

/-! ### Keys -/

/-- A bare name is read up to the blank behind it. -/
theorem readKeyPart?_bare {name : Text} (hname : ∀ c ∈ name, isBare c = true) (hne : name ≠ [])
    (t : Text) : readKeyPart? (name ++ ' ' :: t) = some (name, ' ' :: t) := by
  obtain ⟨htake, hdrop⟩ := Text.takeWhile_dropWhile_append (c := ' ') hname (by decide) t
  have hempty : name.isEmpty = false := Bool.eq_false_iff.mpr fun h ↦ hne (List.isEmpty_iff.mp h)
  obtain ⟨c, name', hcons⟩ := List.exists_cons_of_ne_nil hne
  have hc : isPlain c = true := isPlain_of_isBare (hname c (hcons ▸ List.mem_cons_self))
  have hother : ∀ d, isPlain d = false → ∀ u, name ++ ' ' :: t ≠ d :: u := by
    intro d hd u heq
    rw [hcons, List.cons_append] at heq
    exact ne_of_isPlain hc hd (List.cons.inj heq).1
  rw [readKeyPart?, htake, hdrop, hempty]
  · rfl
  · exact hother '"' rfl
  · exact hother '\'' rfl

/-- The ways in which a name is written. -/
theorem writeKey_cases (name : Text) :
    ((∀ c ∈ name, isBare c = true) ∧ name ≠ [] ∧ writeKey name = name) ∨
      writeKey name = writeIn .basic name ∨
      (StringForm.literal.Fits name ∧ writeKey name = writeIn .literal name) := by
  unfold writeKey
  split
  · rename_i hbare
    rw [Bool.and_eq_true, Bool.not_eq_true', List.isEmpty_eq_false_iff] at hbare
    exact .inl ⟨List.all_eq_true.mp hbare.2, hbare.1, rfl⟩
  · split
    · exact .inr (.inl rfl)
    · rename_i hplain
      split
      · exact .inr (.inl rfl)
      · split
        · rename_i hquote
          have hplain : (∀ c ∈ name, needsEscape c = false) ∧ '\n' ∉ name := by simpa using hplain
          have hquote : '\'' ∉ name := by simpa using hquote
          exact .inr (.inr ⟨fun c hc ↦ ⟨hplain.1 c hc, fun hline ↦ hplain.2 (hline ▸ hc),
            fun hmark ↦ hquote (hmark ▸ hc)⟩, rfl⟩)
        · exact .inr (.inl rfl)

/-- A name is read from what is written for it. -/
theorem readKeyPart?_writeKey (name t : Text) :
    readKeyPart? (writeKey name ++ ' ' :: t) = some (name, ' ' :: t) := by
  rcases writeKey_cases name with ⟨hbare, hne, hkey⟩ | hkey | ⟨hfits, hkey⟩
  · rw [hkey]
    exact readKeyPart?_bare hbare hne t
  · rw [hkey, writeIn_basic]
    exact readBasic?_escaped 0 name _
  · rw [hkey, writeIn_literal]
    exact readLiteral?_append hfits _

theorem skipBlanks_cons {c : Char} (hc : isBlank c = false) (t : Text) :
    skipBlanks (c :: t) = c :: t := by
  rw [skipBlanks, List.dropWhile_cons, hc, if_neg Bool.false_ne_true]

/-- What is written for a name begins with none of the marks that a line may begin with. -/
theorem exists_cons_writeKey (name : Text) :
    ∃ c t, writeKey name = c :: t ∧ isBlank c = false ∧ c ∉ ['#', '\n', '\r', '['] := by
  rcases writeKey_cases name with ⟨hbare, hne, hkey⟩ | hkey | ⟨-, hkey⟩
  · obtain ⟨c, t, hcons⟩ := List.exists_cons_of_ne_nil hne
    have hc : isBare c = true := hbare c (hcons ▸ List.mem_cons_self)
    have hplain : isPlain c = true := isPlain_of_isBare hc
    refine ⟨c, t, hkey.trans hcons, isBlank_eq_false hplain, ?_⟩
    simp only [List.mem_cons, List.not_mem_nil, or_false, not_or]
    exact ⟨ne_of_isPlain hplain rfl, ne_of_isPlain hplain rfl, ne_of_isPlain hplain rfl,
      ne_of_isPlain hplain rfl⟩
  · exact ⟨_, _, hkey, by decide, by decide⟩
  · exact ⟨_, _, hkey, by decide, by decide⟩

/-- A name and the blank behind it are read up to the mark of the value. -/
theorem readKey?_writeKey (name t : Text) :
    readKey? (writeKey name ++ ' ' :: '=' :: t) = some ([name], '=' :: t) := by
  obtain ⟨c, u, hkey, hblank, -⟩ := exists_cons_writeKey name
  have hskip : skipBlanks (writeKey name ++ ' ' :: '=' :: t) =
      writeKey name ++ ' ' :: '=' :: t := by
    rw [hkey, List.cons_append, skipBlanks_cons hblank]
  rw [readKey?, greatestDepth, readKeyWithin?, hskip, readKeyPart?_writeKey name]
  rfl

/-! ### Lines -/

theorem exists_cons_writeText (s : Text) : ∃ c t, writeText s = c :: t ∧ isBlank c = false := by
  unfold writeText
  cases StringForm.ofText s <;> exact ⟨_, _, rfl, by decide⟩

/-- What is written for a value begins with no blank. -/
theorem exists_cons_writeValue (value : Value) :
    ∃ c t, Config.writeValue value = c :: t ∧ isBlank c = false := by
  cases value with
  | bool b => cases b <;> exact ⟨_, _, rfl, by decide⟩
  | number x =>
    obtain ⟨c, t, hcons⟩ := List.exists_cons_of_ne_nil (writeNumber_ne_nil x)
    exact ⟨c, t, hcons, isBlank_eq_false
      (List.all_eq_true.mp (all_isPlain_writeNumber x) c (hcons ▸ List.mem_cons_self))⟩
  | text s => exact exists_cons_writeText s

/-- The line of an entry in its parts. -/
theorem writeEntry_append (entry : Text × Value) (t : Text) :
    Config.writeEntry entry ++ t =
      writeKey entry.1 ++ ' ' :: '=' :: ' ' :: (Config.writeValue entry.2 ++ '\n' :: t) := by
  simp [Config.writeEntry]

/-- The line of an entry adds it to the table that was opened last. -/
theorem readLine?_writeEntry (draft : Draft) (entry : Text × Value) (t : Text) :
    draft.readLine? (Config.writeEntry entry ++ t) =
      (draft.define? [entry.1] entry.2.toToml).map fun draft ↦ (draft, t) := by
  obtain ⟨c, u, hkey, -, hmark⟩ := exists_cons_writeKey entry.1
  have hheader : ∀ u, Config.writeEntry entry ++ t ≠ '[' :: u := by
    intro u heq
    rw [writeEntry_append, hkey, List.cons_append] at heq
    rw [(List.cons.inj heq).1] at hmark
    exact hmark (by decide)
  have hskip : skipBlanks (' ' :: (Config.writeValue entry.2 ++ '\n' :: t)) =
      Config.writeValue entry.2 ++ '\n' :: t := by
    obtain ⟨d, v, hcons, hd⟩ := exists_cons_writeValue entry.2
    rw [hcons]
    exact skipBlanks_cons hd _
  rw [Draft.readLine?, writeEntry_append, readKey?_writeKey]
  · simp only [Option.bind_eq_bind, Option.bind_some, hskip]
    rw [Nat.mul_add, readValue?_writeValue entry.2]
    have hline : afterLine? ('\n' :: t) = some t := rfl
    simp only [Option.bind_some, hline]
    cases draft.define? [entry.1] entry.2.toToml <;> rfl
  · exact fun u ↦ hheader ('[' :: u)
  · exact hheader

/-- The entry of a line is added before the lines behind it are read. -/
theorem readAll?_writeEntry (lines : Nat) (draft : Draft) (entry : Text × Value) (t : Text) :
    Draft.readAll? (lines + 1) draft (Config.writeEntry entry ++ t) =
      (draft.define? [entry.1] entry.2.toToml).bind fun draft ↦ Draft.readAll? lines draft t := by
  obtain ⟨c, u, hkey, hblank, hmark⟩ := exists_cons_writeKey entry.1
  have hskip : ∀ n, skipLines? (n + 1) (Config.writeEntry entry ++ t) =
      some (Config.writeEntry entry ++ t) := by
    intro n
    have hmark : ¬(c = '#' ∨ c = '\n' ∨ c = '\r') := by
      simp only [List.mem_cons, List.not_mem_nil, or_false, not_or] at hmark ⊢
      exact ⟨hmark.1, hmark.2.1, hmark.2.2.1⟩
    rw [writeEntry_append, hkey, List.cons_append, skipLines?, skipBlanks_cons hblank]
    exact if_neg hmark
  have hempty : (Config.writeEntry entry ++ t).isEmpty = false := by
    rw [writeEntry_append, hkey]
    rfl
  rw [Draft.readAll?, hskip, Option.bind_some, hempty, if_neg Bool.false_ne_true,
    readLine?_writeEntry draft entry, Option.bind_map]
  rfl

/-! ### The table of the values -/

/-- A document whose only table is the one of the values, which was opened last. -/
def valuesDraft (entries : Entries) : Draft :=
  ⟨[("values".toList, .table .header entries)], ["values".toList]⟩

/-- A key is not found exactly if no entry has it. -/
theorem find?_eq_none_iff {key : Text} {entries : Entries} :
    find? key entries = none ↔ key ∉ entries.map (·.1) := by
  rw [find?, Option.map_eq_none_iff, List.find?_eq_none, List.mem_map, not_exists]
  simp only [decide_eq_true_eq, not_and]

/-- A name that the table does not have is added at its end. -/
theorem define?_valuesDraft {name : Text} {entries : Entries} (hname : name ∉ entries.map (·.1))
    (value : Toml) : (valuesDraft entries).define? [name] value =
      some (valuesDraft (entries ++ [(name, value)])) := by
  have hdefine : define? name value entries = some (entries ++ [(name, value)]) := by
    rw [define?, find?_eq_none_iff.mpr hname]
    rfl
  have hchange : change? false (defineDotted? [name] value) ["values".toList]
      [("values".toList, .table .header entries)] =
      (define? name value entries).map fun inner ↦
        [("values".toList, .table .header inner)] := rfl
  rw [valuesDraft, Draft.define?, hchange, hdefine]
  rfl

/-- The lines of entries with new names add all of them in their order. -/
theorem readAll?_writeEntries {table : Entries} {entries : List (Text × Value)} {lines : Nat}
    (hnames : (table.map (·.1) ++ entries.map (·.1)).Nodup)
    (hlines : entries.length < lines) :
    Draft.readAll? lines (valuesDraft table) (entries.flatMap Config.writeEntry) =
      some (valuesDraft (table ++ entries.map fun entry ↦ (entry.1, entry.2.toToml))) := by
  induction entries generalizing table lines with
  | nil =>
    obtain ⟨lines, rfl⟩ : ∃ n, lines = n + 1 := ⟨lines - 1, by omega⟩
    rw [List.map_nil, List.append_nil]
    rfl
  | cons entry entries ih =>
    obtain ⟨lines, rfl⟩ : ∃ n, lines = n + 1 := ⟨lines - 1, by omega⟩
    have hname : entry.1 ∉ table.map (·.1) := fun hmem ↦
      (List.nodup_append.mp hnames).2.2 _ hmem _ List.mem_cons_self rfl
    have hrest : ((table ++ [(entry.1, entry.2.toToml)]).map (·.1) ++
        entries.map (·.1)).Nodup := by
      rw [List.map_append, List.append_assoc]
      exact hnames
    rw [List.flatMap_cons, readAll?_writeEntry lines, define?_valuesDraft hname, Option.bind_some,
      ih hrest (Nat.lt_of_succ_lt_succ hlines), List.append_assoc]
    rfl

/-- The header of the values opens their table. -/
theorem readAll?_header (lines : Nat) (t : Text) :
    Draft.readAll? (lines + 1) ⟨[], []⟩ ("[values]\n".toList ++ t) =
      Draft.readAll? lines (valuesDraft []) t := rfl

/-- Every entry takes a line of its own. -/
theorem length_le_writeEntries (entries : List (Text × Value)) :
    entries.length ≤ (entries.flatMap Config.writeEntry).length := by
  induction entries with
  | nil => exact Nat.le_refl _
  | cons entry entries ih =>
    have hline : 1 ≤ (Config.writeEntry entry).length := by
      rw [Config.writeEntry, List.length_append]
      exact Nat.le_add_left _ _
    rw [List.flatMap_cons, List.length_append, List.length_cons]
    omega

/-- A document of the values with different names has the table of the values. -/
theorem ofText?_writeEntries {entries : List (Text × Value)}
    (hnames : (entries.map (·.1)).Nodup) :
    ofText? ("[values]\n".toList ++ entries.flatMap Config.writeEntry) =
      some [("values".toList,
        .table .header (entries.map fun entry ↦ (entry.1, entry.2.toToml)))] := by
  have hlines : entries.length <
      ("[values]\n".toList ++ entries.flatMap Config.writeEntry).length := by
    have hle := length_le_writeEntries entries
    have hheader : "[values]\n".toList.length = 9 := rfl
    rw [List.length_append, hheader]
    omega
  have hread : Draft.readAll? _ (valuesDraft []) (entries.flatMap Config.writeEntry) = _ :=
    readAll?_writeEntries hnames hlines
  rw [← readAll?_header] at hread
  exact congrArg (Option.map (·.root)) hread

end Toml

end PromptTemplate
