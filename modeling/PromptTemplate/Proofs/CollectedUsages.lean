import PromptTemplate.Command.Usage
import PromptTemplate.Proofs.FirstAppearances
import PromptTemplate.Proofs.RepeatedMerging

/-!
Which templates declare which controls. Collecting goes through the controls of one template after
the other (`sightings`). A control that was seen gets the file of the next sighting, unless it has
that file, and one that was not goes to the end with the one file (`tells_add`). So after any run of
sightings there is one usage for each control that was seen, with the files of all its sightings and
with what it was at the first of them (`tells_foldl_add`).

A template lists no control twice, so the sightings of a control are the templates that declare it:
the usages are in the order in which the controls first appear, each with the different files of
just these templates and with what it is in the first of them (`collectedFrom_collect`).
-/

set_option autoImplicit false
set_option relaxedAutoImplicit false

namespace PromptTemplate.Usage

open Declaration (distinct)

/-- Whether a control is among those of a template. -/
def Declares (template : Text × List Declaration) (key : Kind × Text) : Prop :=
  key ∈ (distinct template.2).map (·.key)

instance decidableDeclares (template : Text × List Declaration) (key : Kind × Text) :
    Decidable (Declares template key) :=
  inferInstanceAs (Decidable (key ∈ _))

/-- Whether usages are those of the controls of some templates: one for each control, in the order
in which the controls first appear, with the different files of the templates that declare the
control in the order of these, and with all that the control is in the first of them. -/
structure CollectedFrom (templates : List (Text × List Declaration)) (usages : List Usage) :
    Prop where
  keys_eq : usages.map (fun u ↦ (u.kind, u.name)) =
    (templates.flatMap fun template ↦ (distinct template.2).map (·.key)).eraseDups
  files_eq : ∀ u ∈ usages, u.files =
    ((templates.filter fun template ↦ Declares template (u.kind, u.name)).map (·.1)).eraseDups
  exists_first : ∀ u ∈ usages, ∃ before first after, templates = before ++ first :: after ∧
    (∀ template ∈ before, ¬ Declares template (u.kind, u.name)) ∧
    ∃ control ∈ distinct first.2,
      u = { kind := control.kind, name := control.name, defaultValue := control.defaultValue,
            options := control.options, range := control.range, files := u.files,
            declaration := control }

/-! ### One sighting after the other -/

/-- The controls of some templates in their order, each with the file of its template. -/
def sightings (templates : List (Text × List Declaration)) : List (Text × Declaration) :=
  templates.flatMap fun template ↦ (distinct template.2).map fun control ↦ (template.1, control)

/-- Whether usages tell of each control that was seen in which files it was seen, and what it was at
the first sighting. -/
structure Tells (seen : List (Text × Declaration)) (usages : List Usage) : Prop where
  keys_eq : usages.map key = (seen.map (·.2.key)).eraseDups
  files_eq : ∀ u ∈ usages, u.files = ((seen.filter (·.2.key == u.key)).map (·.1)).eraseDups
  find?_eq : ∀ u ∈ usages, (seen.find? (·.2.key == u.key)).map (·.2) = some u.declaration
  eq_ofControl : ∀ u ∈ usages, u = ofControl u.declaration u.files

/-- A usage with one more sighting of its control. -/
def seenIn (file : Text) (control : Declaration) (u : Usage) : Usage :=
  if u.key == control.key && !u.files.contains file then
    { u with files := u.files ++ [file] }
  else u

variable {seen : List (Text × Declaration)} {usages : List Usage}

/-- A sighting goes to the usage of its control if there is one, and to the end otherwise. -/
theorem add_eq (file : Text) (usages : List Usage) (control : Declaration) :
    add file usages control =
      if control.key ∈ usages.map key then usages.map (seenIn file control)
      else usages ++ [ofControl control [file]] := by
  have hany : (usages.any fun u ↦ u.key == control.key) = true ↔
      control.key ∈ usages.map key := by
    simp only [List.any_eq_true, beq_iff_eq, List.mem_map]
  simp only [add, hany]
  rfl

/-- A sighting changes the files of a usage only. -/
theorem seenIn_eq (file : Text) (control : Declaration) (u : Usage) :
    seenIn file control u = { u with files := (seenIn file control u).files } := by
  rw [seenIn]
  split <;> rfl

theorem key_seenIn (file : Text) (control : Declaration) (u : Usage) :
    (seenIn file control u).key = u.key := by
  rw [seenIn_eq]
  rfl

theorem declaration_seenIn (file : Text) (control : Declaration) (u : Usage) :
    (seenIn file control u).declaration = u.declaration := by
  rw [seenIn_eq]

theorem seenIn_of_ne {file : Text} {control : Declaration} {u : Usage}
    (h : u.key ≠ control.key) : seenIn file control u = u := by
  rw [seenIn, beq_false_of_ne h]
  rfl

/-- The file of a sighting is put behind the files of the sightings before, unless it is there. -/
theorem files_seenIn {u : Usage} (file : Text) (control : Declaration)
    (h : u.files = ((seen.filter (·.2.key == u.key)).map (·.1)).eraseDups) :
    (seenIn file control u).files =
      (((seen ++ [(file, control)]).filter (·.2.key == u.key)).map (·.1)).eraseDups := by
  rw [List.filter_append, List.map_append]
  by_cases hkey : u.key = control.key
  · have hlast : [(file, control)].filter (·.2.key == u.key) = [(file, control)] := by
      rw [List.filter_singleton, hkey, beq_self_eq_true, cond_true]
    have hmem : file ∈ (seen.filter (·.2.key == u.key)).map (·.1) ↔ file ∈ u.files := by
      rw [h, List.mem_eraseDups]
    rw [seenIn, beq_iff_eq.mpr hkey, hlast, List.map_singleton, eraseDups_concat, ← h]
    simp only [hmem, Bool.true_and, Bool.not_eq_true', List.contains_eq_mem,
      decide_eq_false_iff_not, ite_not]
    split <;> rfl
  · have hlast : [(file, control)].filter (·.2.key == u.key) = [] := by
      rw [List.filter_singleton, beq_false_of_ne (Ne.symm hkey), cond_false]
    rw [seenIn_of_ne hkey, hlast, List.map_nil, List.append_nil, h]

theorem Tells.mem_keys_iff (h : Tells seen usages) {k : Kind × Text} :
    k ∈ usages.map key ↔ k ∈ seen.map (·.2.key) := by
  rw [h.keys_eq, List.mem_eraseDups]

/-- A later sighting is not the first one. -/
theorem Tells.find?_append (h : Tells seen usages) (more : List (Text × Declaration)) :
    ∀ u ∈ usages, ((seen ++ more).find? (·.2.key == u.key)).map (·.2) = some u.declaration := by
  intro u hu
  rw [List.find?_append, Option.map_or, h.find?_eq u hu, Option.some_or]

/-- A sighting of a control that was seen is told of by the usage of the control. -/
theorem Tells.map_seenIn (h : Tells seen usages) (file : Text) {control : Declaration}
    (hknown : control.key ∈ seen.map (·.2.key)) :
    Tells (seen ++ [(file, control)]) (usages.map (seenIn file control)) where
  keys_eq := by
    rw [List.map_append, List.map_singleton, eraseDups_concat, if_pos hknown, ← h.keys_eq,
      List.map_map]
    exact List.map_congr_left fun u _ ↦ key_seenIn file control u
  files_eq v hv := by
    obtain ⟨u, hu, rfl⟩ := List.mem_map.mp hv
    rw [key_seenIn]
    exact files_seenIn file control (h.files_eq u hu)
  find?_eq v hv := by
    obtain ⟨u, hu, rfl⟩ := List.mem_map.mp hv
    rw [key_seenIn, declaration_seenIn]
    exact h.find?_append _ u hu
  eq_ofControl v hv := by
    obtain ⟨u, hu, rfl⟩ := List.mem_map.mp hv
    have hu := h.eq_ofControl u hu
    rw [declaration_seenIn]
    calc seenIn file control u
        = { u with files := (seenIn file control u).files } := seenIn_eq file control u
      _ = { ofControl u.declaration u.files with files := (seenIn file control u).files } :=
        congrArg (fun v : Usage ↦ { v with files := (seenIn file control u).files }) hu

/-- A sighting of another control is told of by one more usage. -/
theorem Tells.concat (h : Tells seen usages) (file : Text) {control : Declaration}
    (hnew : control.key ∉ seen.map (·.2.key)) :
    Tells (seen ++ [(file, control)]) (usages ++ [ofControl control [file]]) := by
  have hnone : ∀ sighting ∈ seen, ¬ (sighting.2.key == control.key) = true := fun sighting hs hkey ↦
    hnew (List.mem_map.mpr ⟨sighting, hs, eq_of_beq hkey⟩)
  have hother : ∀ u ∈ usages, u.key ≠ control.key := fun u hu hkey ↦
    hnew (h.mem_keys_iff.mp (List.mem_map.mpr ⟨u, hu, hkey⟩))
  have hkey : (ofControl control [file]).key = control.key := rfl
  refine ⟨?_, fun v hv ↦ ?_, fun v hv ↦ ?_, fun v hv ↦ ?_⟩
  · rw [List.map_append, List.map_append, List.map_singleton, List.map_singleton, hkey,
      eraseDups_concat, if_neg hnew, h.keys_eq]
  · rcases List.mem_append.mp hv with hv | hv
    · have hfiles := files_seenIn file control (h.files_eq v hv)
      rwa [seenIn_of_ne (hother v hv)] at hfiles
    · obtain rfl := List.mem_singleton.mp hv
      rw [hkey, List.filter_append, List.filter_eq_nil_iff.mpr hnone, List.filter_singleton,
        beq_self_eq_true]
      rfl
  · rcases List.mem_append.mp hv with hv | hv
    · exact h.find?_append _ v hv
    · obtain rfl := List.mem_singleton.mp hv
      rw [hkey, List.find?_append, List.find?_eq_none.mpr hnone, Option.none_or,
        List.find?_singleton, if_pos (beq_self_eq_true _)]
      rfl
  · rcases List.mem_append.mp hv with hv | hv
    · exact h.eq_ofControl v hv
    · obtain rfl := List.mem_singleton.mp hv
      rfl

theorem tells_add (h : Tells seen usages) (file : Text) (control : Declaration) :
    Tells (seen ++ [(file, control)]) (add file usages control) := by
  rw [add_eq]
  split
  · rename_i hknown
    exact h.map_seenIn file (h.mem_keys_iff.mp hknown)
  · rename_i hnew
    exact h.concat file fun hknown ↦ hnew (h.mem_keys_iff.mpr hknown)

/-- A run of sightings is told of. -/
theorem tells_foldl_add (h : Tells seen usages) (more : List (Text × Declaration)) :
    Tells (seen ++ more)
      (more.foldl (fun usages sighting ↦ add sighting.1 usages sighting.2) usages) := by
  induction more generalizing seen usages with
  | nil => rwa [List.append_nil]
  | cons sighting more ih =>
    have hrest := ih (tells_add h sighting.1 sighting.2)
    rwa [List.append_assoc] at hrest

/-! ### From sightings to templates -/

variable {templates : List (Text × List Declaration)}

/-- Usages are collected from one sighting after the other. -/
theorem collect_eq (templates : List (Text × List Declaration)) :
    collect templates =
      (sightings templates).foldl (fun usages sighting ↦ add sighting.1 usages sighting.2) [] := by
  rw [sightings, List.foldl_flatMap]
  simp only [List.foldl_map]
  rfl

theorem tells_collect (templates : List (Text × List Declaration)) :
    Tells (sightings templates) (collect templates) := by
  have hnone : Tells [] [] := ⟨rfl, nofun, nofun, nofun⟩
  rw [collect_eq]
  exact tells_foldl_add hnone (sightings templates)

/-- A template has at most one sighting of a control. -/
theorem files_of_sightings (template : Text × List Declaration) (key : Kind × Text) :
    ((((distinct template.2).map fun control ↦ (template.1, control)).filter
      (·.2.key == key)).map (·.1)) = if Declares template key then [template.1] else [] := by
  have hnodup : ((distinct template.2).map (·.key)).Nodup :=
    List.pairwise_map.mpr (Declaration.pairwise_key_distinct template.2)
  have hlength : ((distinct template.2).filter (·.key == key)).length =
      ((distinct template.2).map (·.key)).count key := by
    rw [List.count, List.countP_map, List.countP_eq_length_filter]
    rfl
  have hcount : ((distinct template.2).map (·.key)).count key =
      if Declares template key then 1 else 0 := hnodup.count
  rw [List.filter_map, List.map_map]
  change ((distinct template.2).filter (·.key == key)).map (fun _ ↦ template.1) = _
  rw [List.map_const', hlength, hcount]
  split <;> rfl

/-- A control was seen in the files of the templates that declare it, once in each. -/
theorem files_sightings (templates : List (Text × List Declaration)) (key : Kind × Text) :
    ((sightings templates).filter (·.2.key == key)).map (·.1) =
      (templates.filter fun template ↦ Declares template key).map (·.1) := by
  induction templates with
  | nil => rfl
  | cons template templates ih =>
    rw [sightings, List.flatMap_cons, List.filter_append, List.map_append, files_of_sightings,
      List.filter_cons]
    by_cases hdeclares : Declares template key
    · rw [if_pos hdeclares, if_pos (decide_eq_true hdeclares), List.map_cons, ← ih]
      rfl
    · rw [if_neg hdeclares, if_neg (by simpa using hdeclares), ← ih]
      rfl

/-- The usages of the controls of some templates are collected from all of them. -/
theorem collectedFrom_collect (templates : List (Text × List Declaration)) :
    CollectedFrom templates (collect templates) where
  keys_eq := by
    change (collect templates).map key = _
    rw [(tells_collect templates).keys_eq, sightings, List.map_flatMap]
    simp only [List.map_map]
    rfl
  files_eq u hu := by
    change u.files =
      ((templates.filter fun template ↦ Declares template u.key).map (·.1)).eraseDups
    rw [← files_sightings, (tells_collect templates).files_eq u hu]
  exists_first u hu := by
    obtain ⟨⟨file, control⟩, hfind, hcontrol⟩ :=
      Option.map_eq_some_iff.mp ((tells_collect templates).find?_eq u hu)
    rw [sightings, List.find?_flatMap] at hfind
    obtain ⟨before, first, after, rfl, hfirst, hbefore⟩ := List.findSome?_eq_some_iff.mp hfind
    obtain ⟨own, hown, heq⟩ := List.mem_map.mp (List.mem_of_find?_eq_some hfirst)
    refine ⟨before, first, after, rfl, fun template htemplate hdeclares ↦ ?_, u.declaration, ?_,
      (tells_collect _).eq_ofControl u hu⟩
    · obtain ⟨other, hother, hkey⟩ := List.mem_map.mp hdeclares
      have hnot := List.find?_eq_none.mp (hbefore template htemplate) (template.1, other)
        (List.mem_map.mpr ⟨other, hother, rfl⟩)
      exact hnot (beq_iff_eq.mpr hkey)
    · rw [← hcontrol, ← (Prod.mk.inj heq).2]
      exact hown

end PromptTemplate.Usage
