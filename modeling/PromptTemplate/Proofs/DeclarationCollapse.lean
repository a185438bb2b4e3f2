import Mathlib.Data.List.Basic
import Mathlib.Data.List.Perm.Basic
import PromptTemplate.Declaration.Distinct

/-!
Collapsing declarations to one for each control. The declarations that are kept are those that no
declaration of the same control precedes (`mem_firsts_iff`), so no two of them have the same key
(`pairwise_key_collapse`), and each stands for the class of all declarations with its key. The
classes together are the whole list (`perm_flatMap_filter_firsts`): collapsing loses no place and
lists none twice (`perm_sites_collapse`).
-/

set_option autoImplicit false
set_option relaxedAutoImplicit false

namespace PromptTemplate

/-- A control, by its kind and name, and one place where it is written. -/
abbrev Site := (Kind × Text) × Span

namespace Declaration

/-- What a declaration states about its control apart from where it is written. -/
def payload (d : Declaration) : Text × List Text × Option SliderRange × Option Text :=
  (d.defaultValue, d.options, d.range, d.innerText)

/-- The control of a declaration with each of the places that it lists. -/
def sites (d : Declaration) : List Site := d.occurrences.map fun s ↦ (d.key, s)

/-- A declaration as it is read off one place of a text. -/
structure IsSingle (d : Declaration) : Prop where
  occurrences_eq : d.occurrences = [d.span]
  nested_eq : d.nested = []

/-- What is read off one place stands there only. -/
theorem IsSingle.spans_eq {d : Declaration} (h : d.IsSingle) : d.spans = [d.span] := by
  simp [spans, h.occurrences_eq]

theorem sameControl_iff {d other : Declaration} :
    sameControl d other = true ↔ d.key = other.key := beq_iff_eq

theorem sameControl_eq_false_iff {d other : Declaration} :
    sameControl d other = false ↔ d.key ≠ other.key := beq_eq_false_iff_ne

/-! ### The first declaration of each control -/

/-- Leaving out some controls and then repetitions, or the repetitions first, is the same. -/
theorem filter_key_firsts (p : Kind × Text → Bool) (ds : List Declaration) :
    (firsts ds).filter (fun d ↦ p d.key) = firsts (ds.filter fun d ↦ p d.key) := by
  induction ds with
  | nil => rfl
  | cons e ds ih =>
    by_cases he : p e.key = true
    · rw [firsts, List.filter_cons, if_pos he, List.filter_cons, if_pos he, firsts, ← ih,
        List.filter_filter, List.filter_filter]
      simp only [Bool.and_comm]
    · have hne : ∀ d : Declaration, p d.key = true → (!sameControl e d) = true := by
        intro d hd
        rw [Bool.not_eq_true', sameControl_eq_false_iff]
        exact fun hkey ↦ he (hkey ▸ hd)
      rw [firsts, List.filter_cons, if_neg he, List.filter_cons, if_neg he, ← ih,
        List.filter_filter]
      refine List.filter_congr fun d _ ↦ Bool.eq_iff_iff.mpr ?_
      rw [Bool.and_eq_true]
      exact ⟨And.left, fun hd ↦ ⟨hd, hne d hd⟩⟩

theorem filter_firsts (d : Declaration) (ds : List Declaration) :
    (firsts ds).filter (!sameControl d ·) = firsts (ds.filter (!sameControl d ·)) :=
  filter_key_firsts (fun k ↦ !(d.key == k)) ds

/-- The first declarations of the controls are in the order in which they stand. -/
theorem firsts_sublist (ds : List Declaration) : (firsts ds).Sublist ds := by
  induction ds with
  | nil => exact List.Sublist.refl _
  | cons e ds ih => exact (List.filter_sublist.trans ih).cons_cons e

theorem mem_of_mem_firsts {d : Declaration} {ds : List Declaration} (h : d ∈ firsts ds) :
    d ∈ ds :=
  (firsts_sublist ds).subset h

/-- The declarations that are kept are the first ones of their key. -/
theorem mem_firsts_iff {d : Declaration} {ds : List Declaration} :
    d ∈ firsts ds ↔ ds.find? (sameControl d) = some d := by
  induction ds with
  | nil => simp [firsts]
  | cons e ds ih =>
    rw [firsts, List.mem_cons, List.mem_filter, ih, List.find?_cons]
    by_cases hde : d.key = e.key
    · have hsame : sameControl d e = true := sameControl_iff.mpr hde
      have hsymm : sameControl e d = true := sameControl_iff.mpr hde.symm
      simp only [hsame, hsymm, Bool.not_true, Bool.false_eq_true, and_false, or_false,
        Option.some.injEq, eq_comm]
    · have hsame : sameControl d e = false := sameControl_eq_false_iff.mpr hde
      have hsymm : sameControl e d = false := sameControl_eq_false_iff.mpr (Ne.symm hde)
      have hne : d ≠ e := fun h ↦ hde (congrArg key h)
      simp only [hsame, hsymm, Bool.not_false, and_true, hne, false_or]

/-- Nothing of the class of a control is lost with the class of another one. -/
theorem filter_sameControl_of_ne {β : Type} {d e : Declaration} (hne : d.key ≠ e.key)
    (f : β → Declaration) (bs : List β) :
    (bs.filter fun b ↦ !sameControl e (f b)).filter (fun b ↦ sameControl d (f b)) =
      bs.filter fun b ↦ sameControl d (f b) := by
  rw [List.filter_filter]
  apply List.filter_congr
  intro b _
  by_cases h : d.key = (f b).key
  · have hother : e.key ≠ (f b).key := h ▸ hne.symm
    simp [sameControl, h, hother]
  · simp [sameControl, h]

/-- The classes of things that declare the same control make up the list of all of them. The
induction splits off the class of the first element, so it is on the length. -/
theorem perm_flatMap_filter_firsts {β : Type} (f : β → Declaration) (bs : List β) :
    ((firsts (bs.map f)).flatMap fun d ↦ bs.filter fun b ↦ sameControl d (f b)).Perm bs := by
  induction hn : bs.length using Nat.strongRecOn generalizing bs with
  | ind n ih =>
    cases bs with
    | nil => exact List.Perm.nil
    | cons b bs =>
      have hself : sameControl (f b) (f b) = true := sameControl_iff.mpr rfl
      have hfirsts : firsts ((b :: bs).map f) =
          f b :: firsts ((bs.filter fun b' ↦ !sameControl (f b) (f b')).map f) := by
        rw [List.map_cons, firsts, filter_firsts, List.filter_map]
        rfl
      have hclass : ∀ d ∈ firsts ((bs.filter fun b' ↦ !sameControl (f b) (f b')).map f),
          ((b :: bs).filter fun b' ↦ sameControl d (f b')) =
            (bs.filter fun b' ↦ !sameControl (f b) (f b')).filter
              fun b' ↦ sameControl d (f b') := by
        intro d hd
        obtain ⟨b', hb', rfl⟩ := List.mem_map.mp (mem_of_mem_firsts hd)
        have hkey : (f b).key ≠ (f b').key := by
          have hnot := List.of_mem_filter hb'
          rwa [Bool.not_eq_true', sameControl_eq_false_iff] at hnot
        have hb : sameControl (f b') (f b) = false := sameControl_eq_false_iff.mpr hkey.symm
        rw [List.filter_cons, hb, if_neg Bool.false_ne_true,
          filter_sameControl_of_ne hkey.symm]
      have hlength : (bs.filter fun b' ↦ !sameControl (f b) (f b')).length < n := by
        have hle := List.length_filter_le (fun b' ↦ !sameControl (f b) (f b')) bs
        rw [← hn, List.length_cons]
        omega
      rw [hfirsts, List.flatMap_cons, List.flatMap_congr hclass, List.filter_cons, hself,
        if_pos rfl, List.cons_append]
      refine List.Perm.cons b (((ih _ hlength _ rfl).append_left _).trans ?_)
      exact List.filter_append_perm (fun b' ↦ sameControl (f b) (f b')) bs

/-! ### One declaration for each control -/

/-- A collapsed declaration is the first one of its key with the places of all of them. -/
theorem mem_collapse_iff {c : Declaration} {ds : List Declaration} :
    c ∈ collapse ds ↔ ∃ own, ds.find? (sameControl own) = some own ∧
      c = { own with occurrences := (ds.filter (sameControl own)).flatMap spans } := by
  simp only [collapse, List.mem_map, mem_firsts_iff, eq_comm]

/-- Every control that is declared has a collapsed declaration. -/
theorem exists_mem_collapse {d : Declaration} {ds : List Declaration} (hd : d ∈ ds) :
    ∃ c ∈ collapse ds, c.key = d.key := by
  have hsome : (ds.find? (sameControl d)).isSome = true :=
    List.find?_isSome.mpr ⟨d, hd, sameControl_iff.mpr rfl⟩
  obtain ⟨own, hown⟩ := Option.isSome_iff_exists.mp hsome
  have hkey : d.key = own.key := sameControl_iff.mp (List.find?_some hown)
  have hsame : sameControl own = sameControl d := by
    funext other
    simp only [sameControl, hkey]
  exact ⟨_, mem_collapse_iff.mpr ⟨own, hsame ▸ hown, rfl⟩, hkey.symm⟩

/-- The places of a collapsed declaration are those of the declarations of its control. -/
theorem mem_occurrences_iff_of_mem_collapse {c : Declaration} {ds : List Declaration}
    (hc : c ∈ collapse ds) {s : Span} :
    s ∈ c.occurrences ↔ ∃ d ∈ ds, d.key = c.key ∧ s ∈ d.spans := by
  obtain ⟨own, -, rfl⟩ := mem_collapse_iff.mp hc
  simp only [List.mem_flatMap, List.mem_filter, sameControl_iff, and_assoc]
  exact exists_congr fun d ↦ and_congr_right fun _ ↦ and_congr_left fun _ ↦ eq_comm

/-- Leaving out some controls makes no difference to what is collapsed of the others. -/
theorem filter_key_collapse (p : Kind × Text → Bool) (ds : List Declaration) :
    (collapse ds).filter (fun d ↦ p d.key) = collapse (ds.filter fun d ↦ p d.key) := by
  have hclass : ∀ d ∈ firsts (ds.filter fun d ↦ p d.key),
      (ds.filter fun d ↦ p d.key).filter (sameControl d) = ds.filter (sameControl d) := by
    intro d hd
    have hp : p d.key = true := (List.mem_filter.mp (mem_of_mem_firsts hd)).2
    rw [List.filter_filter]
    refine List.filter_congr fun other _ ↦ Bool.eq_iff_iff.mpr ?_
    rw [Bool.and_eq_true]
    exact ⟨And.left, fun hsame ↦ ⟨hsame, sameControl_iff.mp hsame ▸ hp⟩⟩
  rw [collapse, collapse, List.filter_map]
  have hkeys : (fun d : Declaration ↦ p d.key) ∘ (fun d : Declaration ↦
      { d with occurrences := (ds.filter (sameControl d)).flatMap spans }) = fun d ↦ p d.key := rfl
  rw [hkeys, filter_key_firsts]
  refine List.map_congr_left fun d hd ↦ ?_
  rw [hclass d hd]

/-- The first declarations are of different controls. -/
theorem pairwise_key_firsts (ds : List Declaration) :
    (firsts ds).Pairwise fun c d ↦ c.key ≠ d.key := by
  induction ds with
  | nil => exact List.Pairwise.nil
  | cons e ds ih =>
    rw [firsts]
    refine List.pairwise_cons.mpr ⟨fun d hd ↦ ?_, ih.filter _⟩
    have hnot := List.of_mem_filter hd
    rwa [Bool.not_eq_true', sameControl_eq_false_iff] at hnot

/-- No two collapsed declarations are of one control. -/
theorem pairwise_key_collapse (ds : List Declaration) :
    (collapse ds).Pairwise fun c d ↦ c.key ≠ d.key :=
  List.pairwise_map.mpr (pairwise_key_firsts ds)

/-- Collapsing keeps every place of every control, and lists none of them twice. -/
theorem perm_sites_collapse (ds : List Declaration) :
    ((collapse ds).flatMap sites).Perm (ds.flatMap fun d ↦ d.spans.map fun s ↦ (d.key, s)) := by
  have hclass : ∀ c ∈ firsts ds,
      sites { c with occurrences := (ds.filter (sameControl c)).flatMap spans } =
        (ds.filter (sameControl c)).flatMap fun d ↦ d.spans.map fun s ↦ (d.key, s) := by
    intro c _
    rw [sites, List.map_flatMap]
    apply List.flatMap_congr
    intro d hd
    have hkey : c.key = d.key := sameControl_iff.mp (List.of_mem_filter hd)
    rw [← hkey]
    rfl
  have hall := perm_flatMap_filter_firsts id ds
  rw [List.map_id] at hall
  rw [collapse, List.flatMap_map, List.flatMap_congr hclass, ← List.flatMap_assoc]
  exact hall.flatMap_right _

end Declaration

end PromptTemplate
