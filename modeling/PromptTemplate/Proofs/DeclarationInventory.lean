import PromptTemplate.Proofs.WrittenDeclarations

/-!
The inventory of a text. The places that the declarations of a text list, at the top level and
inside of toggles, are as a bag the blocks of the text, the flat controls outside of the blocks
and the flat controls inside of each block (`perm_sites_top`, `perm_sites_nested`). No place is
lost when blocks with the same trimmed name share one declaration, and none is listed twice.

What a declaration states is what stands at the first of its places (`CarriesEarliest`). The first
place is looked for among the blocks for a toggle, outside of the blocks for a flat control at the
top level, and in all blocks of one trimmed name for a nested control.
-/

set_option autoImplicit false
set_option relaxedAutoImplicit false

namespace PromptTemplate.Declaration

/-- Whether a declaration states what is written at the earliest place of its control, among
declarations that are each read off one place. -/
def CarriesEarliest (d : Declaration) (written : List Declaration) : Prop :=
  ∃ own ∈ written, own.key = d.key ∧ own.payload = d.payload ∧ own.span = d.span ∧
    ∀ other ∈ written, other.key = d.key → own.span.start ≤ other.span.start

/-- Of declarations in the order of a text the one that is found first is the earliest. -/
theorem start_le_of_find?_eq_some {ds : List Declaration}
    (hds : ds.Pairwise fun c d ↦ c.span.start ≤ d.span.start) {own : Declaration}
    (hown : ds.find? (sameControl own) = some own) {other : Declaration} (hother : other ∈ ds)
    (hkey : other.key = own.key) : own.span.start ≤ other.span.start := by
  obtain ⟨-, before, behind, rfl, hbefore⟩ := List.find?_eq_some_iff_append.mp hown
  rcases List.mem_append.mp hother with hother | hother
  · have hsame : sameControl own other = true := sameControl_iff.mpr hkey.symm
    have hnot := hbefore other hother
    rw [hsame] at hnot
    exact absurd hnot (by decide)
  · rcases List.mem_cons.mp hother with rfl | hother
    · exact Nat.le_refl _
    · exact (List.pairwise_cons.mp (List.pairwise_append.mp hds).2.1).1 other hother

/-- Of declarations in the order of a text a collapsed one states what the earliest one states. -/
theorem carriesEarliest_of_mem_collapse {ds : List Declaration}
    (hds : ds.Pairwise fun c d ↦ c.span.start ≤ d.span.start) {c : Declaration}
    (hc : c ∈ collapse ds) : CarriesEarliest c ds := by
  obtain ⟨own, hown, rfl⟩ := mem_collapse_iff.mp hc
  exact ⟨own, List.mem_of_find?_eq_some hown, rfl, rfl, rfl,
    fun other hother hkey ↦ start_le_of_find?_eq_some hds hown hother hkey⟩

variable {t : Text}

/-! ### Where declarations start -/

/-- Spans in the order of a text start in this order. -/
theorem pairwise_start_of_pairwise_stop {ds : List Declaration}
    (hfits : ∀ d ∈ ds, d.span.Fits t)
    (hds : ds.Pairwise fun c d ↦ c.span.stop ≤ d.span.start) :
    ds.Pairwise fun c d ↦ c.span.start < d.span.start :=
  hds.imp_of_mem fun hc _ hstop ↦ Nat.lt_of_lt_of_le (hfits _ hc).start_lt_stop hstop

theorem isSingle_of_mem_map_ofBlock {d : Declaration}
    (hd : d ∈ (ToggleBlock.all t).map ofBlock) : d.IsSingle := by
  obtain ⟨b, -, rfl⟩ := List.mem_map.mp hd
  exact isSingle_ofBlock b

theorem pairwise_start_ofBlock :
    ((ToggleBlock.all t).map ofBlock).Pairwise fun c d ↦ c.span.start < d.span.start := by
  have hfits : ∀ d ∈ (ToggleBlock.all t).map ofBlock, d.span.Fits t := by
    intro d hd
    obtain ⟨b, hb, rfl⟩ := List.mem_map.mp hd
    exact fits_of_mem_all hb
  exact pairwise_start_of_pairwise_stop hfits (pairwise_ofBlock t)

theorem pairwise_start_outside :
    (outside t).Pairwise fun c d ↦ c.span.start < d.span.start :=
  pairwise_start_of_pairwise_stop (fun _ ↦ fits_of_mem_outside) (pairwise_outside t)

/-- The blocks whose trimmed name is the name of a toggle. -/
def blocksNamed (t : Text) (name : Text) : List (Placed ToggleBlock) :=
  (ToggleBlock.all t).filter (·.item.name == name)

/-- The controls in the bodies of some of the blocks are declared from the left to the right. -/
theorem pairwise_start_inside {bs : List (Placed ToggleBlock)}
    (hbs : bs.Sublist (ToggleBlock.all t)) :
    (bs.flatMap inside).Pairwise fun c d ↦ c.span.start < d.span.start := by
  have hfits : ∀ d ∈ bs.flatMap inside, d.span.Fits t := by
    intro d hd
    obtain ⟨b, hb, hd⟩ := List.mem_flatMap.mp hd
    exact (within_of_mem_inside (hbs.subset hb) hd).1
  exact pairwise_start_of_pairwise_stop hfits (pairwise_flatMap_inside hbs)

theorem pairwise_start_blocksNamed (name : Text) :
    ((blocksNamed t name).flatMap inside).Pairwise fun c d ↦ c.span.start < d.span.start :=
  pairwise_start_inside List.filter_sublist

/-! ### The declarations of a text -/

/-- A declaration of a text is that of a toggle or of a flat control outside of the blocks. -/
theorem mem_ofText_iff {d : Declaration} :
    d ∈ ofText t ↔ d ∈ toggles t ∨ d ∈ collapse (outside t) := by
  unfold ofText inOrder
  rw [(sortBy_perm _ _).mem_iff, List.mem_append]

/-- A toggle is a collapsed block with the collapsed controls of all blocks of its name. -/
theorem mem_toggles_iff {d : Declaration} :
    d ∈ toggles t ↔ ∃ c ∈ collapse ((ToggleBlock.all t).map ofBlock),
      d = { c with nested := collapse ((blocksNamed t c.name).flatMap inside) } := by
  simp only [toggles, List.mem_map, blocksNamed, eq_comm]

theorem kind_of_mem_toggles {d : Declaration} (hd : d ∈ toggles t) : d.kind = .toggle := by
  obtain ⟨c, hc, rfl⟩ := mem_toggles_iff.mp hd
  obtain ⟨own, hown, rfl⟩ := mem_collapse_iff.mp hc
  obtain ⟨b, -, rfl⟩ := List.mem_map.mp (List.mem_of_find?_eq_some hown)
  rfl

/-- The declarations nested in a toggle are collapsed from the bodies of all blocks of its name. -/
theorem nested_of_mem_toggles {d : Declaration} (hd : d ∈ toggles t) :
    d.nested = collapse ((blocksNamed t d.name).flatMap inside) := by
  obtain ⟨c, -, rfl⟩ := mem_toggles_iff.mp hd
  rfl

/-- Collapsed flat controls are flat and hold none. -/
theorem flat_of_mem_collapse {ds : List Declaration}
    (hds : ∀ d ∈ ds, d.IsSingle ∧ d.kind ≠ .toggle) {c : Declaration} (hc : c ∈ collapse ds) :
    c.kind ≠ .toggle ∧ c.nested = [] := by
  obtain ⟨own, hown, rfl⟩ := mem_collapse_iff.mp hc
  obtain ⟨hsingle, hkind⟩ := hds own (List.mem_of_find?_eq_some hown)
  exact ⟨hkind, hsingle.nested_eq⟩

/-! ### The bag of all places -/

/-- Collapsing declarations of one place each keeps the bag of these places. -/
theorem perm_sites_collapse_of_isSingle {ds : List Declaration} (hds : ∀ d ∈ ds, d.IsSingle) :
    ((collapse ds).flatMap sites).Perm (ds.map fun d ↦ (d.key, d.span)) := by
  rw [← flatMap_spans_of_isSingle hds]
  exact perm_sites_collapse ds

variable (t)

/-- The places at the top level are the blocks and the flat controls outside of them. -/
theorem perm_sites_top : ((ofText t).flatMap sites).Perm
    ((ToggleBlock.all t).map blockSite ++ (directivesOutside t).filterMap flatSite?) := by
  have htoggles : (toggles t).flatMap sites =
      (collapse ((ToggleBlock.all t).map ofBlock)).flatMap sites := by
    rw [toggles, List.flatMap_map]
    rfl
  have hblocks : ((ToggleBlock.all t).map ofBlock).map (fun d ↦ (d.key, d.span)) =
      (ToggleBlock.all t).map blockSite := by
    rw [List.map_map]
    rfl
  refine ((sortBy_perm _ _).flatMap_right sites).trans ?_
  rw [List.flatMap_append, htoggles, ← hblocks, ← map_site_outside]
  exact (perm_sites_collapse_of_isSingle fun _ ↦ isSingle_of_mem_map_ofBlock).append
    (perm_sites_collapse_of_isSingle fun _ hd ↦ (isFlat_of_mem_outside hd).1)

/-- The toggles of a text divide its blocks among them, by the trimmed name. -/
theorem perm_flatMap_blocksNamed :
    ((toggles t).flatMap fun d ↦ blocksNamed t d.name).Perm (ToggleBlock.all t) := by
  have hclass : ∀ d ∈ firsts ((ToggleBlock.all t).map ofBlock), blocksNamed t d.name =
      (ToggleBlock.all t).filter fun b ↦ sameControl d (ofBlock b) := by
    intro d hd
    obtain ⟨b, -, rfl⟩ := List.mem_map.mp (mem_of_mem_firsts hd)
    apply List.filter_congr
    intro b' _
    by_cases hname : b'.item.name = b.item.name
    · simp [sameControl, key, ofBlock, single, hname]
    · simp [sameControl, key, ofBlock, single, hname, Ne.symm hname]
  have hall := perm_flatMap_filter_firsts ofBlock (ToggleBlock.all t)
  rw [← List.flatMap_congr hclass] at hall
  unfold toggles collapse
  rw [List.map_map, List.flatMap_map]
  exact hall

/-- The places inside of each toggle are the flat controls of the blocks of its name. -/
theorem perm_keyed_sites_nested :
    ((ofText t).flatMap fun d ↦ (d.nested.flatMap sites).map (d.key, ·)).Perm
      ((ToggleBlock.all t).flatMap fun b ↦
        ((directivesInside b).filterMap flatSite?).map ((.toggle, b.item.name), ·)) := by
  have hflat : ((collapse (outside t)).flatMap fun d ↦
      (d.nested.flatMap sites).map (d.key, ·)) = [] := by
    apply List.flatMap_eq_nil_iff.mpr
    intro c hc
    rw [(flat_of_mem_collapse (fun d ↦ isFlat_of_mem_outside) hc).2]
    rfl
  have htoggle : ∀ d ∈ toggles t, ((d.nested.flatMap sites).map (d.key, ·)).Perm
      ((blocksNamed t d.name).flatMap fun b ↦
        ((directivesInside b).filterMap flatSite?).map ((.toggle, b.item.name), ·)) := by
    intro d hd
    have hsingle : ∀ e ∈ (blocksNamed t d.name).flatMap inside, e.IsSingle := fun e he ↦
      (isFlat_of_mem_inside he).1
    have hkey : ∀ b ∈ blocksNamed t d.name, d.key = (.toggle, b.item.name) := by
      intro b hb
      have hname : b.item.name = d.name := beq_iff_eq.mp (List.mem_filter.mp hb).2
      exact Prod.ext (kind_of_mem_toggles hd) hname.symm
    rw [nested_of_mem_toggles hd]
    refine ((perm_sites_collapse_of_isSingle hsingle).map _).trans ?_
    rw [List.map_flatMap]
    simp only [map_site_inside]
    rw [List.map_flatMap]
    exact List.Perm.of_eq (List.flatMap_congr fun b hb ↦ by rw [hkey b hb])
  refine ((sortBy_perm _ _).flatMap_right _).trans ?_
  rw [List.flatMap_append, hflat, List.append_nil]
  refine (List.Perm.flatMap_left _ htoggle).trans ?_
  rw [← List.flatMap_assoc]
  exact (perm_flatMap_blocksNamed t).flatMap_right _

/-- The places inside of toggles are the flat controls of all blocks. -/
theorem perm_sites_nested : ((ofText t).flatMap fun d ↦ d.nested.flatMap sites).Perm
    ((ToggleBlock.all t).flatMap fun b ↦ (directivesInside b).filterMap flatSite?) := by
  have hkeyed := (perm_keyed_sites_nested t).map (·.2)
  simp only [List.map_flatMap, List.map_map, Function.comp_def, List.map_id'] at hkeyed
  exact hkeyed

/-! ### What a declaration states -/

variable {t}

/-- A toggle is what its first block says. -/
theorem carriesEarliest_of_mem_toggles {d : Declaration} (hd : d ∈ toggles t) :
    CarriesEarliest d ((ToggleBlock.all t).map ofBlock) := by
  obtain ⟨c, hc, rfl⟩ := mem_toggles_iff.mp hd
  have hown := carriesEarliest_of_mem_collapse (pairwise_start_ofBlock.imp Nat.le_of_lt) hc
  exact hown

/-- A flat control outside of the blocks is what its first directive there says. -/
theorem carriesEarliest_of_mem_outside {d : Declaration} (hd : d ∈ collapse (outside t)) :
    CarriesEarliest d (outside t) :=
  carriesEarliest_of_mem_collapse (pairwise_start_outside.imp Nat.le_of_lt) hd

/-- A nested control is what its first directive in the blocks of the toggle says. -/
theorem carriesEarliest_of_mem_nested {d n : Declaration} (hd : d ∈ toggles t)
    (hn : n ∈ d.nested) : CarriesEarliest n ((blocksNamed t d.name).flatMap inside) := by
  rw [nested_of_mem_toggles hd] at hn
  exact carriesEarliest_of_mem_collapse ((pairwise_start_blocksNamed d.name).imp Nat.le_of_lt) hn

variable (t)

/-- The declarations of a text list each block, each flat control outside of the blocks and each
flat control inside of a block once and nothing else, and each declaration states what stands at
its earliest place. -/
theorem perm_sites_ofText_and_carriesEarliest :
    ((ofText t).flatMap fun d ↦ sites d ++ d.nested.flatMap sites).Perm
        ((ToggleBlock.all t).map blockSite ++ (directivesOutside t).filterMap flatSite? ++
          (ToggleBlock.all t).flatMap fun b ↦ (directivesInside b).filterMap flatSite?) ∧
      ∀ d ∈ ofText t,
        (d.kind = .toggle → CarriesEarliest d ((ToggleBlock.all t).map ofBlock)) ∧
        (d.kind ≠ .toggle → CarriesEarliest d (outside t)) ∧
        ∀ n ∈ d.nested, CarriesEarliest n ((blocksNamed t d.name).flatMap inside) := by
  refine ⟨?_, fun d hd ↦ ?_⟩
  · exact (List.flatMap_append_perm _ _ _).symm.trans
      ((perm_sites_top t).append (perm_sites_nested t))
  · rcases mem_ofText_iff.mp hd with hd | hd
    · exact ⟨fun _ ↦ carriesEarliest_of_mem_toggles hd,
        fun hkind ↦ absurd (kind_of_mem_toggles hd) hkind,
        fun n ↦ carriesEarliest_of_mem_nested hd⟩
    · obtain ⟨hkind, hnested⟩ := flat_of_mem_collapse (fun e ↦ isFlat_of_mem_outside) hd
      refine ⟨fun h ↦ absurd h hkind, fun _ ↦ carriesEarliest_of_mem_outside hd, ?_⟩
      rw [hnested]
      exact fun n hn ↦ absurd hn List.not_mem_nil

end PromptTemplate.Declaration
