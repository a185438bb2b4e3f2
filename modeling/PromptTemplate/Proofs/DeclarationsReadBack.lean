import Mathlib.Data.List.Basic
import PromptTemplate.Declaration.Json

/-!
Declarations that are read back from their JSON form. The object of a declaration has nine parts, of
which empty lists and absent values are left out (`toJson_eq`); since no two parts have one name, a
name finds just its part (`field?_parts`). Each part that is written is read back, if its numbers
fit their words, and one that is left out is filled in with what made it be left out
(`required?_eq_some_iff`, `withDefault?_eq_some_iff`, `nullable?_eq_some_iff`). Along the nesting
this makes any declarations be read back as they were, whichever of their parts are there, exactly
if all their numbers fit (`arrayOfJson?_listToJson_eq_some_iff`).
-/

set_option autoImplicit false
set_option relaxedAutoImplicit false

namespace PromptTemplate

/-! ### Numbers that fit -/

/-- Whether the ends of a span fit 64 bits without a sign. -/
def Span.FitsWords (s : Span) : Prop :=
  Integer.FitsUnsigned 64 s.start ∧ Integer.FitsUnsigned 64 s.stop

/-- Whether the bounds of a range fit 64 bits with a sign. -/
def SliderRange.FitsWords (r : SliderRange) : Prop :=
  Integer.FitsSigned 63 r.min ∧ Integer.FitsSigned 63 r.max

/-- Whether the numbers of a declaration and of all declarations within it fit. -/
inductive Declaration.FitsWords : Declaration → Prop
  | intro {d : Declaration} (span : d.span.FitsWords)
      (occurrences : ∀ s ∈ d.occurrences, s.FitsWords) (range : ∀ r ∈ d.range, r.FitsWords)
      (nested : ∀ inner ∈ d.nested, FitsWords inner) : FitsWords d

namespace Json

/-! ### Objects of which parts are left out -/

/-- The fields of the parts of an object that are there. -/
def parts (entries : List (String × Option Json)) : List (Text × Json) :=
  entries.flatMap fun entry ↦ optionalField entry.1 entry.2

/-- The array of a list that is left out if it is empty. -/
def arrayPart : List Json → Option Json
  | [] => none
  | item :: items => some (.array (item :: items))

/-- A list is written as a part that is left out if the list is empty. -/
theorem listField_eq (name : String) (items : List Json) :
    listField name items = optionalField name (arrayPart items) := by
  cases items <;> rfl

theorem field?_append (name : Text) (fields more : List (Text × Json)) :
    field? name (fields ++ more) = (field? name more).or (field? name fields) := by
  induction fields with
  | nil => exact Option.or_none.symm
  | cons field fields ih =>
    rw [List.cons_append, field?, field?, ih]
    cases field? name more <;> rfl

theorem field?_optionalField (name other : String) (value : Option Json) :
    field? name.toList (optionalField other value) = if other = name then value else none := by
  cases value with
  | none => exact (ite_self none).symm
  | some value => simp [optionalField, field?, String.toList_inj]

/-- What is written from parts has no field of another name. -/
theorem field?_parts_eq_none {entries : List (String × Option Json)} {name : String}
    (h : name ∉ entries.map (·.1)) : field? name.toList (parts entries) = none := by
  induction entries with
  | nil => rfl
  | cons entry entries ih =>
    rw [List.map_cons, List.mem_cons, not_or] at h
    rw [parts, List.flatMap_cons, field?_append, ← parts, ih h.2, Option.none_or,
      field?_optionalField, if_neg (Ne.symm h.1)]

/-- A name finds the part that has it, if no two parts have one name. -/
theorem field?_parts {entries : List (String × Option Json)} (h : (entries.map (·.1)).Nodup)
    {name : String} {value : Option Json} (hmem : (name, value) ∈ entries) :
    field? name.toList (parts entries) = value := by
  induction entries with
  | nil => cases hmem
  | cons entry entries ih =>
    obtain ⟨hnew, hrest⟩ := List.nodup_cons.mp h
    rw [parts, List.flatMap_cons, field?_append, ← parts, field?_optionalField]
    rcases List.mem_cons.mp hmem with rfl | hmem
    · rw [field?_parts_eq_none hnew, Option.none_or, if_pos rfl]
    · have hne : entry.1 ≠ name := fun heq ↦
        hnew (List.mem_map.mpr ⟨(name, value), hmem, heq.symm⟩)
      rw [ih hrest hmem, if_neg hne, Option.or_none]

/-! ### Parts that are read back -/

/-- Whether what is written of something is read as that thing if a condition holds, and is not read
at all otherwise. -/
def ReadsBack {α : Type} (read? : Json → Option α) (write : α → Json) (fits : α → Prop) : Prop :=
  ∀ a b, read? (write a) = some b ↔ fits a ∧ b = a

theorem readsBack_text : ReadsBack text? .text fun _ ↦ True := by
  intro a b
  simp [text?, eq_comm]

theorem readsBack_kind : ReadsBack kind? (fun kind ↦ .text kind.keyword) fun _ ↦ True := by
  intro a b
  simp [kind?, Kind.ofKeyword?_keyword, eq_comm]

theorem readsBack_unsigned : ReadsBack unsigned64? (fun n : Nat ↦ .integer n) fun n ↦
    Integer.FitsUnsigned 64 n := by
  intro a b
  simp [unsigned64?, eq_comm]

theorem readsBack_signed : ReadsBack signed64? .integer (Integer.FitsSigned 63) := by
  intro a b
  simp [signed64?, eq_comm]

section Parts

variable {α : Type} {read? : Json → Option α} {write : α → Json} {fits : α → Prop}
  {name : String} {fields : List (Text × Json)}

/-- Values that are read back one by one are read back together. -/
theorem ReadsBack.mapM (h : ReadsBack read? write fits) (items read : List α) :
    (items.map write).mapM read? = some read ↔ (∀ a ∈ items, fits a) ∧ read = items := by
  induction items generalizing read with
  | nil => simp [eq_comm]
  | cons a items ih =>
    simp only [List.map_cons, List.mapM_cons, Option.bind_eq_bind, Option.bind_eq_some_iff, h a, ih,
      Option.pure_def, Option.some.injEq, List.forall_mem_cons]
    constructor
    · rintro ⟨b, ⟨ha, rfl⟩, rest, ⟨hitems, rfl⟩, rfl⟩
      exact ⟨⟨ha, hitems⟩, rfl⟩
    · rintro ⟨⟨ha, hitems⟩, rfl⟩
      exact ⟨a, ⟨ha, rfl⟩, items, ⟨hitems, rfl⟩, rfl⟩

/-- A list is read back if its items are. -/
theorem ReadsBack.list (h : ReadsBack read? write fits) :
    ReadsBack (list? read?) (fun items ↦ .array (items.map write)) fun items ↦
      ∀ a ∈ items, fits a :=
  h.mapM

/-- A part that is there is read back. -/
theorem required?_eq_some_iff (h : ReadsBack read? write fits) {a b : α}
    (hfield : field? name.toList fields = some (write a)) :
    required? read? name fields = some b ↔ fits a ∧ b = a := by
  rw [required?, hfield, Option.bind_some, h]

/-- A part that is there is read back also where another may stand in its place. -/
theorem withDefault?_eq_some_iff (h : ReadsBack read? write fits) {a b default : α}
    (hfield : field? name.toList fields = some (write a)) :
    withDefault? read? name default fields = some b ↔ fits a ∧ b = a := by
  rw [withDefault?, hfield]
  exact h a b

/-- A list that is left out if it is empty is read back. -/
theorem withDefault?_list_eq_some_iff (h : ReadsBack read? write fits) {items read : List α}
    (hfield : field? name.toList fields = arrayPart (items.map write)) :
    withDefault? (list? read?) name [] fields = some read ↔
      (∀ a ∈ items, fits a) ∧ read = items := by
  rw [withDefault?, hfield, ← h.list]
  cases items with
  | nil => simp [arrayPart, list?, array?]
  | cons a items => rfl

/-- A value that is left out if it is absent is read back. -/
theorem nullable?_eq_some_iff (h : ReadsBack read? write fits) (hwrite : ∀ a, write a ≠ .null)
    {value read : Option α} (hfield : field? name.toList fields = value.map write) :
    nullable? read? name fields = some read ↔ (∀ a ∈ value, fits a) ∧ read = value := by
  rw [nullable?, hfield]
  cases value with
  | none => simp [eq_comm]
  | some a =>
    have hmap : (read? (write a)).map some = some read ↔ fits a ∧ read = some a := by
      rw [Option.map_eq_some_iff]
      constructor
      · rintro ⟨b, hb, rfl⟩
        obtain ⟨ha, rfl⟩ := (h a b).mp hb
        exact ⟨ha, rfl⟩
      · rintro ⟨ha, rfl⟩
        exact ⟨a, (h a a).mpr ⟨ha, rfl⟩, rfl⟩
    have hvalue := hwrite a
    rw [Option.map_some]
    split
    · rename_i heq
      cases heq
    · rename_i heq
      exact absurd (Option.some.inj heq) hvalue
    · rename_i heq
      obtain rfl := Option.some.inj heq
      simpa using hmap

end Parts

/-- What is made of two numbers in an object of their own is read back. -/
theorem requiredBoth_eq_some_iff {α β : Type} {read? : Json → Option α} {write : α → Json}
    {fits : α → Prop} (h : ReadsBack read? write fits) {first second : String}
    (hne : first ≠ second) (make : α → α → β) (a b : α) (read : β) :
    ((required? read? first [(first.toList, write a), (second.toList, write b)]).bind fun x ↦
      (required? read? second [(first.toList, write a), (second.toList, write b)]).bind fun y ↦
        some (make x y)) = some read ↔ (fits a ∧ fits b) ∧ read = make a b := by
  have hnodup : ([(first, some (write a)), (second, some (write b))].map (·.1)).Nodup := by
    simp [hne]
  have hfirst : field? first.toList [(first.toList, write a), (second.toList, write b)] =
      some (write a) := field?_parts hnodup List.mem_cons_self
  have hsecond : field? second.toList [(first.toList, write a), (second.toList, write b)] =
      some (write b) := field?_parts hnodup (List.mem_cons_of_mem _ List.mem_cons_self)
  simp only [Option.bind_eq_some_iff, required?_eq_some_iff h hfirst,
    required?_eq_some_iff h hsecond, Option.some.injEq]
  constructor
  · rintro ⟨x, ⟨ha, rfl⟩, y, ⟨hb, rfl⟩, rfl⟩
    exact ⟨⟨ha, hb⟩, rfl⟩
  · rintro ⟨⟨ha, hb⟩, rfl⟩
    exact ⟨a, ⟨ha, rfl⟩, b, ⟨hb, rfl⟩, rfl⟩

theorem readsBack_span : ReadsBack span? Span.toJson Span.FitsWords := by
  intro s read
  rw [span?, Span.toJson, fields?, Option.bind_eq_bind, Option.bind_some, Span.FitsWords]
  exact requiredBoth_eq_some_iff readsBack_unsigned (by decide) Span.mk s.start s.stop read

theorem readsBack_sliderRange :
    ReadsBack sliderRange? SliderRange.toJson SliderRange.FitsWords := by
  intro r read
  rw [sliderRange?, SliderRange.toJson, fields?, Option.bind_eq_bind, Option.bind_some,
    SliderRange.FitsWords]
  exact requiredBoth_eq_some_iff readsBack_signed (by decide) SliderRange.mk r.min r.max read

end Json

/-! ### Declarations -/

namespace Declaration

open Json

/-- The parts of the object of a declaration in their order. -/
def entries (d : Declaration) : List (String × Option Json) :=
  [("kind", some (.text d.kind.keyword)), ("name", some (.text d.name)),
    ("default_value", some (.text d.defaultValue)), ("options", arrayPart (d.options.map .text)),
    ("range", d.range.map SliderRange.toJson), ("inner_text", d.innerText.map .text),
    ("span", some d.span.toJson), ("occurrences", arrayPart (d.occurrences.map Span.toJson)),
    ("nested", arrayPart (listToJson d.nested))]

theorem toJson_eq (d : Declaration) : toJson d = .object (parts d.entries) := by
  cases d
  simp only [toJson, entries, parts, listField_eq, List.flatMap_cons, List.flatMap_nil,
    List.append_nil, List.append_assoc]
  rfl

/-- No two parts of a declaration have the same name. -/
theorem nodup_entries (d : Declaration) : (d.entries.map (·.1)).Nodup := by
  change fieldNames.Nodup
  decide

/-- What is not nested is read back. -/
theorem ofFields?_parts_eq_some_iff {d read : Declaration} {nested : List Declaration} :
    ofFields? (parts d.entries) nested = some read ↔
      (d.span.FitsWords ∧ (∀ s ∈ d.occurrences, s.FitsWords) ∧ ∀ r ∈ d.range, r.FitsWords) ∧
        read = { d with nested } := by
  have hnodup := d.nodup_entries
  have hkind (kind : Kind) :
      required? kind? "kind" (parts d.entries) = some kind ↔ True ∧ kind = d.kind :=
    required?_eq_some_iff readsBack_kind (field?_parts hnodup (by simp [entries]))
  have hname (name : Text) :
      required? text? "name" (parts d.entries) = some name ↔ True ∧ name = d.name :=
    required?_eq_some_iff readsBack_text (field?_parts hnodup (by simp [entries]))
  have hdefault (value : Text) : withDefault? text? "default_value" [] (parts d.entries) =
      some value ↔ True ∧ value = d.defaultValue :=
    withDefault?_eq_some_iff readsBack_text (field?_parts hnodup (by simp [entries]))
  have hoptions (options : List Text) : withDefault? (list? text?) "options" [] (parts d.entries) =
      some options ↔ (∀ o ∈ d.options, True) ∧ options = d.options :=
    withDefault?_list_eq_some_iff readsBack_text (field?_parts hnodup (by simp [entries]))
  have hrange (range : Option SliderRange) : nullable? sliderRange? "range" (parts d.entries) =
      some range ↔ (∀ r ∈ d.range, r.FitsWords) ∧ range = d.range :=
    nullable?_eq_some_iff readsBack_sliderRange (by simp [SliderRange.toJson])
      (field?_parts hnodup (by simp [entries]))
  have hinner (inner : Option Text) : nullable? text? "inner_text" (parts d.entries) =
      some inner ↔ (∀ t ∈ d.innerText, True) ∧ inner = d.innerText :=
    nullable?_eq_some_iff readsBack_text (by simp) (field?_parts hnodup (by simp [entries]))
  have hspan (span : Span) : required? span? "span" (parts d.entries) = some span ↔
      d.span.FitsWords ∧ span = d.span :=
    required?_eq_some_iff readsBack_span (field?_parts hnodup (by simp [entries]))
  have hoccurrences (spans : List Span) :
      withDefault? (list? span?) "occurrences" [] (parts d.entries) = some spans ↔
        (∀ s ∈ d.occurrences, s.FitsWords) ∧ spans = d.occurrences :=
    withDefault?_list_eq_some_iff readsBack_span (field?_parts hnodup (by simp [entries]))
  simp only [ofFields?, Option.bind_eq_bind, Option.bind_eq_some_iff, hkind, hname, hdefault,
    hoptions, hrange, hinner, hspan, hoccurrences, Option.pure_def, Option.some.injEq]
  constructor
  · rintro ⟨_, ⟨-, rfl⟩, _, ⟨-, rfl⟩, _, ⟨-, rfl⟩, _, ⟨-, rfl⟩, _, ⟨hranges, rfl⟩, _, ⟨-, rfl⟩, _,
      ⟨hfits, rfl⟩, _, ⟨hplaces, rfl⟩, rfl⟩
    exact ⟨⟨hfits, hplaces, hranges⟩, rfl⟩
  · rintro ⟨⟨hfits, hplaces, hranges⟩, rfl⟩
    exact ⟨_, ⟨trivial, rfl⟩, _, ⟨trivial, rfl⟩, _, ⟨trivial, rfl⟩, _, ⟨fun _ _ ↦ trivial, rfl⟩, _,
      ⟨hranges, rfl⟩, _, ⟨fun _ _ ↦ trivial, rfl⟩, _, ⟨hfits, rfl⟩, _, ⟨hplaces, rfl⟩, rfl⟩

/-- Of the fields for nested declarations the last one counts. -/
theorem nestedOf?_cons (name : Text) (value : Json) (fields : List (Text × Json)) :
    nestedOf? ((name, value) :: fields) =
      if name = "nested".toList ∧ (field? name fields).isNone then
        value.array?.bind listOfJson?
      else nestedOf? fields := by
  conv_lhs => rw [nestedOf?.eq_def]
  cases value <;> rfl

/-- The nested declarations are those of the field that their name finds. -/
theorem nestedOf?_eq (fields : List (Text × Json)) :
    nestedOf? fields =
      match field? "nested".toList fields with
      | some value => value.array?.bind listOfJson?
      | none => some [] := by
  induction fields with
  | nil => rfl
  | cons field fields ih =>
    obtain ⟨name, value⟩ := field
    rw [nestedOf?_cons, ih, field?]
    generalize "nested".toList = key
    by_cases hname : name = key
    · subst hname
      cases field? name fields <;> simp
    · cases field? key fields <;> simp [hname]

mutual

/-- A declaration is read back exactly if its numbers fit their words, and then as it is. The
recursion is on the declaration, together with the one on the list of those nested in it. -/
theorem ofJson?_toJson_eq_some_iff : ∀ d read : Declaration,
    ofJson? (toJson d) = some read ↔ FitsWords d ∧ read = d
  | ⟨kind, name, defaultValue, options, range, innerText, span, occurrences, nested⟩, read => by
    generalize hd : Declaration.mk kind name defaultValue options range innerText span occurrences
      nested = d
    have hlist := listOfJson?_listToJson_eq_some_iff nested
    have hfield : field? "nested".toList (parts d.entries) = arrayPart (listToJson nested) :=
      field?_parts d.nodup_entries (by simp [entries, ← hd])
    have hnested (inner : List Declaration) : nestedOf? (parts d.entries) = some inner ↔
        (∀ d ∈ nested, FitsWords d) ∧ inner = nested := by
      rw [nestedOf?_eq, hfield, ← hlist]
      cases nested <;> rfl
    rw [toJson_eq, ofJson?, Option.bind_eq_some_iff]
    simp only [hnested, ofFields?_parts_eq_some_iff]
    constructor
    · rintro ⟨_, ⟨hinner, rfl⟩, ⟨hspan, hplaces, hranges⟩, rfl⟩
      subst hd
      exact ⟨⟨hspan, hplaces, hranges, hinner⟩, rfl⟩
    · rintro ⟨⟨hspan, hplaces, hranges, hinner⟩, rfl⟩
      subst hd
      exact ⟨_, ⟨hinner, rfl⟩, ⟨hspan, hplaces, hranges⟩, rfl⟩

/-- A list of declarations is read back exactly if the numbers of each fit their words. -/
theorem listOfJson?_listToJson_eq_some_iff : ∀ ds read : List Declaration,
    listOfJson? (listToJson ds) = some read ↔ (∀ d ∈ ds, FitsWords d) ∧ read = ds
  | [], read => by simp [listToJson, listOfJson?, eq_comm]
  | d :: ds, read => by
    have hd := ofJson?_toJson_eq_some_iff d
    have hds := listOfJson?_listToJson_eq_some_iff ds
    simp only [listToJson, listOfJson?, Option.bind_eq_bind, Option.bind_eq_some_iff, hd, hds,
      Option.pure_def, Option.some.injEq, List.forall_mem_cons]
    constructor
    · rintro ⟨b, ⟨ha, rfl⟩, rest, ⟨hitems, rfl⟩, rfl⟩
      exact ⟨⟨ha, hitems⟩, rfl⟩
    · rintro ⟨⟨ha, hitems⟩, rfl⟩
      exact ⟨d, ⟨ha, rfl⟩, ds, ⟨hitems, rfl⟩, rfl⟩

end

/-- A list of declarations, whichever of their parts are there and however deep they are nested, is
read back from its JSON form as it was. The only condition, which is also necessary, is that the
ends of all spans fit 64 bits without a sign and the bounds of all ranges 64 bits with one. -/
theorem arrayOfJson?_listToJson_eq_some_iff (ds read : List Declaration) :
    arrayOfJson? (.array (listToJson ds)) = some read ↔ (∀ d ∈ ds, FitsWords d) ∧ read = ds := by
  rw [arrayOfJson?, array?, Option.bind_some, listOfJson?_listToJson_eq_some_iff]

end Declaration

end PromptTemplate
