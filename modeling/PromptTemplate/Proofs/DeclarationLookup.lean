import PromptTemplate.Proofs.DeclarationShape

/-!
Looking a control up among declarations. Collapsing changes nothing of what is found first under a
key (`payload?_collapse`), so the declarations of a text answer as the list of what is written in
it does: at the top level (`payload?_ofText`) and inside of a toggle (`payload?_nested_ofText`).
-/

set_option autoImplicit false
set_option relaxedAutoImplicit false

namespace PromptTemplate.Declaration

/-- What declarations state of a control: the payload of the first one of its key. -/
def payload? (ds : List Declaration) (k : Kind × Text) :
    Option (Text × List Text × Option SliderRange × Option Text) :=
  (ds.find? (·.key == k)).map payload

theorem payload?_nil (k : Kind × Text) : payload? [] k = none := rfl

/-- What a control is in two lists is what it is in the first one that has it. -/
theorem payload?_append (ds es : List Declaration) (k : Kind × Text) :
    payload? (ds ++ es) k = (payload? ds k).or (payload? es k) := by
  rw [payload?, List.find?_append, Option.map_or]
  rfl

/-- Nothing is stated of a control that is not declared. -/
theorem payload?_eq_none {ds : List Declaration} {k : Kind × Text}
    (h : ∀ d ∈ ds, d.key ≠ k) : payload? ds k = none := by
  rw [payload?, List.find?_eq_none.mpr fun d hd ↦ by rw [beq_iff_eq]; exact h d hd]
  rfl

/-- What is stated of a control does not depend on declarations of others. -/
theorem payload?_filter {p : Declaration → Bool} {k : Kind × Text}
    (h : ∀ d : Declaration, d.key = k → p d = true) (ds : List Declaration) :
    payload? (ds.filter p) k = payload? ds k := by
  unfold payload?
  rw [List.find?_filter]
  congr 2
  funext d
  by_cases hd : d.key = k
  · simp [hd, h d hd]
  · simp [hd]

theorem payload?_filter_eq_none {p : Declaration → Bool} {k : Kind × Text}
    (h : ∀ d : Declaration, d.key = k → p d = false) (ds : List Declaration) :
    payload? (ds.filter p) k = none := by
  apply payload?_eq_none
  intro d hd hkey
  have hp := List.of_mem_filter hd
  rw [h d hkey] at hp
  cases hp

/-- What is found under a key is the first declaration of it, whether it was collapsed or not. -/
theorem find?_firsts (ds : List Declaration) (k : Kind × Text) :
    (firsts ds).find? (·.key == k) = ds.find? (·.key == k) := by
  induction ds with
  | nil => rfl
  | cons d ds ih =>
    rw [firsts, List.find?_cons, List.find?_cons]
    split
    · rfl
    · rename_i hne
      have hother : ∀ e : Declaration, e.key = k → sameControl d e = false := by
        intro e he
        rw [sameControl, he]
        exact hne
      rw [List.find?_filter, ← ih]
      congr 1
      funext e
      by_cases he : e.key = k
      · simp [he, hother e he]
      · simp [he]

/-- Collapsing keeps what the controls are. -/
theorem payload?_collapse (ds : List Declaration) (k : Kind × Text) :
    payload? (collapse ds) k = payload? ds k := by
  unfold payload? collapse
  rw [List.find?_map, Option.map_map, ← find?_firsts]
  rfl

/-- Of declarations of distinct controls the one that is found does not depend on their order. -/
theorem find?_eq_some_iff_of_pairwise {ds : List Declaration}
    (hds : ds.Pairwise fun c d ↦ c.key ≠ d.key) {k : Kind × Text} {d : Declaration} :
    ds.find? (·.key == k) = some d ↔ d ∈ ds ∧ d.key = k := by
  constructor
  · intro h
    exact ⟨List.mem_of_find?_eq_some h, by simpa using List.find?_some h⟩
  · rintro ⟨hd, rfl⟩
    cases hfind : ds.find? (·.key == d.key) with
    | none => exact absurd (beq_self_eq_true d.key) (List.find?_eq_none.mp hfind d hd)
    | some c =>
      have hkey : c.key = d.key := by simpa using List.find?_some hfind
      rw [List.inj_on_of_nodup_map (List.pairwise_map.mpr hds) (List.mem_of_find?_eq_some hfind) hd
        hkey]

section OfText

variable (t : Text)

/-- Sorting toggles and flat controls by their starts does not change which one has a key. -/
theorem find?_ofText (k : Kind × Text) : (ofText t).find? (·.key == k) =
    (toggles t ++ collapse (outside t)).find? (·.key == k) := by
  have hperm : (ofText t).Perm (toggles t ++ collapse (outside t)) := sortBy_perm _ _
  have hpairwise := pairwise_key_ofText t
  have hpairwise' := (hperm.pairwise_iff fun h ↦ Ne.symm h).mp hpairwise
  apply Option.ext
  intro d
  rw [find?_eq_some_iff_of_pairwise hpairwise, find?_eq_some_iff_of_pairwise hpairwise',
    hperm.mem_iff]

/-- The declarations of a text state of a control what is written for it first. -/
theorem payload?_ofText (k : Kind × Text) :
    payload? (ofText t) k =
      payload? ((ToggleBlock.all t).map ofBlock ++ outside t) k := by
  have htoggles : payload? (toggles t) k = payload? ((ToggleBlock.all t).map ofBlock) k := by
    rw [← payload?_collapse ((ToggleBlock.all t).map ofBlock), payload?, payload?, toggles,
      List.find?_map, Option.map_map]
    rfl
  rw [payload?, find?_ofText, ← payload?, payload?_append, payload?_append, htoggles,
    payload?_collapse]

/-- Inside of a toggle they state what is written first in the blocks of its name. -/
theorem payload?_nested_ofText (toggle k : Kind × Text) :
    ((ofText t).find? (·.key == toggle)).bind (fun d ↦ payload? d.nested k) =
      payload? (((ToggleBlock.all t).filter fun b ↦ (ofBlock b).key == toggle).flatMap inside)
        k := by
  rw [find?_ofText, List.find?_append]
  cases hfind : (toggles t).find? (·.key == toggle) with
  | some d =>
    obtain ⟨hd, hkey⟩ : d ∈ toggles t ∧ d.key = toggle :=
      ⟨List.mem_of_find?_eq_some hfind, by simpa using List.find?_some hfind⟩
    have hblocks : (ToggleBlock.all t).filter (fun b ↦ (ofBlock b).key == toggle) =
        blocksNamed t d.name := by
      have htoggle : toggle = (.toggle, d.name) :=
        hkey.symm.trans (Prod.ext (kind_of_mem_toggles hd) rfl)
      rw [htoggle]
      rfl
    rw [Option.some_or, Option.bind_some, nested_of_mem_toggles hd, payload?_collapse, hblocks]
  | none =>
    have hblocks : (ToggleBlock.all t).filter (fun b ↦ (ofBlock b).key == toggle) = [] := by
      apply List.filter_eq_nil_iff.mpr
      intro b hb hkey
      obtain ⟨c, hc, hckey⟩ := exists_mem_collapse (List.mem_map_of_mem (f := ofBlock) hb)
      have hd := mem_toggles_iff.mpr ⟨c, hc, rfl⟩
      exact List.find?_eq_none.mp hfind _ hd (beq_iff_eq.mpr (hckey.trans (beq_iff_eq.mp hkey)))
    rw [hblocks, Option.none_or, List.flatMap_nil, payload?_nil]
    cases hflat : (collapse (outside t)).find? (·.key == toggle) with
    | none => rfl
    | some d =>
      rw [Option.bind_some,
        (flat_of_mem_collapse (fun _ ↦ isFlat_of_mem_outside) (List.mem_of_find?_eq_some hflat)).2,
        payload?_nil]

end OfText

end PromptTemplate.Declaration
