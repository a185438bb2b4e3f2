import PromptTemplate.Proofs.DistinctControls
import PromptTemplate.Proofs.RenderingFrame

/-!
Declarations that do not fit the text. A place that is empty, that has its ends out of order, that
reaches beyond the text or that cuts a character is never filled in, and neither is it ever filled
in within the body of a block. But the fills beside the blocks are screened for overlaps before it
is known which of them fit, so a place that does not fit can still stand in the way of one that
does: of one that it overlaps and that does not start behind it (`Span.Hides`).

So another flat control none of whose places fits leaves the blocks and what is in them as they are,
puts nothing in the text, and takes only places away that it hides; if it hides none, the same text
comes out (`losesOnlyHidden_of_isMisfit`).
-/

set_option autoImplicit false
set_option relaxedAutoImplicit false

namespace PromptTemplate

/-- Whether a span overlaps a place that does not start behind it. -/
def Span.Hides (s place : Span) : Prop := place.start ≤ s.start ∧ s.overlaps place = true

instance (s place : Span) : Decidable (s.Hides place) := inferInstanceAs (Decidable (_ ∧ _))

/-- Whether a declaration, with those nested in it, declares flat controls that others do not, and
none of the places fits the text. -/
structure Declaration.IsMisfit (t : Text) (others : List Declaration) (d : Declaration) : Prop where
  isFlat : ∀ n ∈ d :: d.nested, n.kind ≠ .toggle
  isOther : ∀ n ∈ d :: d.nested, ∀ other ∈ flatten others, other.key ≠ n.key
  not_fits : ∀ n ∈ d :: d.nested, ∀ s ∈ n.spans, ¬ s.Fits t

instance (t : Text) (others : List Declaration) (d : Declaration) :
    Decidable (d.IsMisfit t others) :=
  decidable_of_iff ((∀ n ∈ d :: d.nested, n.kind ≠ .toggle) ∧
      (∀ n ∈ d :: d.nested, ∀ other ∈ Declaration.flatten others, other.key ≠ n.key) ∧
      ∀ n ∈ d :: d.nested, ∀ s ∈ n.spans, ¬ s.Fits t)
    ⟨fun h ↦ ⟨h.1, h.2.1, h.2.2⟩, fun h ↦ ⟨h.isFlat, h.isOther, h.not_fits⟩⟩

namespace Rendering

/-! ### The places of flat controls -/

/-- Every place of every flat control with the control, from the right to the left. -/
def flatPlaces (controls : List Declaration) : List (Declaration × Span) :=
  sortBy (fun a b ↦ b.2.start ≤ a.2.start) <|
    (controls.filter (!·.isToggle)).flatMap fun control ↦
      control.spans.map fun span ↦ (control, span)

/-- The edit that fills in a place of a control. -/
def fillAt (values : ValueMap) (place : Declaration × Span) : Edit :=
  ⟨place.2, written values place.1⟩

/-- There is a fill for each place of a flat control. -/
theorem fills_eq_map (values : ValueMap) (controls : List Declaration) :
    fills values controls = (flatPlaces controls).map (fillAt values) := by
  have hplaces : ((controls.filter (!·.isToggle)).flatMap fun control ↦
      control.spans.map fun span ↦ (⟨span, written values control⟩ : Edit)) =
      ((controls.filter (!·.isToggle)).flatMap fun control ↦
        control.spans.map fun span ↦ (control, span)).map (fillAt values) := by
    rw [List.map_flatMap]
    simp only [List.map_map]
    rfl
  rw [fills, hplaces, Edit.rightmostFirst, sortBy_map]
  rfl

theorem mem_flatPlaces_iff {controls : List Declaration} {place : Declaration × Span} :
    place ∈ flatPlaces controls ↔
      place.1 ∈ controls ∧ place.1.kind ≠ .toggle ∧ place.2 ∈ place.1.spans := by
  obtain ⟨control, span⟩ := place
  simp [flatPlaces, mem_sortBy, Declaration.isToggle, and_assoc]

theorem pairwise_flatPlaces (controls : List Declaration) :
    (flatPlaces controls).Pairwise fun a b ↦ b.2.start ≤ a.2.start :=
  pairwise_sortBy_ge (fun place : Declaration × Span ↦ place.2.start) _

/-- The places of some of the controls come in the same order without the others. -/
theorem filter_flatPlaces (p : Declaration → Bool) (controls : List Declaration) :
    (flatPlaces controls).filter (fun place ↦ p place.1) = flatPlaces (controls.filter p) := by
  have hplaces : ∀ cs : List Declaration,
      (cs.flatMap fun c ↦ c.spans.map fun s ↦ (c, s)).filter (fun place ↦ p place.1) =
        (cs.filter p).flatMap fun c ↦ c.spans.map fun s ↦ (c, s) := by
    intro cs
    induction cs with
    | nil => rfl
    | cons c cs ih =>
      rw [List.flatMap_cons, List.filter_append, ih, List.filter_map, List.filter_cons]
      cases hpc : p c with
      | true => simp [Function.comp_def, hpc]
      | false => simp [Function.comp_def, hpc]
  rw [flatPlaces, filter_sortBy_ge fun place : Declaration × Span ↦ place.2.start, hplaces,
    List.filter_filter, flatPlaces, List.filter_filter]
  simp only [Bool.and_comm]

/-- Leaving out controls that are no toggles leaves the blocks. -/
theorem blocks_filter (values : ValueMap) {p : Declaration → Bool} {controls : List Declaration}
    (hp : ∀ c ∈ controls, c.isToggle = true → p c = true) :
    blocks values (controls.filter p) = blocks values controls := by
  have htoggles : (controls.filter p).filter (·.isToggle) = controls.filter (·.isToggle) := by
    rw [List.filter_filter]
    refine List.filter_congr fun c hc ↦ Bool.eq_iff_iff.mpr ?_
    rw [Bool.and_eq_true]
    exact ⟨And.left, fun htoggle ↦ ⟨htoggle, hp c hc htoggle⟩⟩
  rw [blocks, htoggles, blocks]

/-- What is left out later can be left out at once. -/
theorem filter_filterMap_filter {α β : Type} {g : α → Option β} {p : α → Bool} {q : β → Bool}
    {xs : List α} (h : ∀ x ∈ xs, p x = false → ∀ y, g x = some y → q y = false) :
    ((xs.filter p).filterMap g).filter q = (xs.filterMap g).filter q := by
  induction xs with
  | nil => rfl
  | cons x xs ih =>
    obtain ⟨hx, hrest⟩ := List.forall_mem_cons.mp h
    cases hp : p x with
    | true =>
      rw [List.filter_cons_of_pos hp, List.filterMap_cons, List.filterMap_cons]
      split
      · exact ih hrest
      · rw [List.filter_cons, List.filter_cons, ih hrest]
    | false =>
      rw [List.filter_cons_of_neg (by simp [hp]), ih hrest, List.filterMap_cons]
      split
      · rfl
      · rename_i y hy
        rw [List.filter_cons_of_neg (by simp [hx hp y hy])]

/-- A place within a body that fits it fits the text. -/
theorem fits_of_relativeTo? {t body : Text} {outer s r : Span}
    (hbody : outer.slice? t = some body) (hr : s.relativeTo? outer.start = some r)
    (hfits : r.Fits body) : s.Fits t := by
  obtain ⟨m, hm, hslice⟩ := hfits.exists_slice?
  obtain rfl := Span.relativeTo?_eq_some_iff.mp hr
  exact Span.fits_of_slice?_eq_some (Span.slice?_shift hbody hslice).1 hm

/-- Places that do not fit the text make no difference to the fills that fit a body. -/
theorem innerFills_filter {t inner : Text} {body : Span} (hbody : body.slice? t = some inner)
    (values : ValueMap) {p : Declaration × Span → Bool} {places : List (Declaration × Span)}
    (hp : ∀ place ∈ places, p place = false → ¬ place.2.Fits t) :
    (innerFills body ((places.filter p).map (fillAt values))).filter (·.fits inner inner.width) =
      (innerFills body (places.map (fillAt values))).filter (·.fits inner inner.width) := by
  rw [innerFills, innerFills, List.filterMap_filter, List.filterMap_filter,
    List.filterMap_map, List.filterMap_map]
  refine filter_filterMap_filter fun place hplace hpplace e he ↦ ?_
  obtain ⟨-, he⟩ := Option.ite_none_right_eq_some.mp he
  obtain ⟨r, hr, rfl⟩ := Option.map_eq_some_iff.mp he
  rw [Bool.eq_false_iff]
  intro hfits
  exact hp place hplace hpplace (fits_of_relativeTo? hbody hr (Edit.fits_width_iff.mp hfits))

/-- Places that do not fit the text make no difference to the edit for a block. -/
theorem resolution?_filter {t : Text} (values : ValueMap) {p : Declaration × Span → Bool}
    {places : List (Declaration × Span)}
    (hp : ∀ place ∈ places, p place = false → ¬ place.2.Fits t) (block : Span × Bool) :
    resolution? t ((places.filter p).map (fillAt values)) block =
      resolution? t (places.map (fillAt values)) block := by
  refine Option.map_congr fun body hbody ↦ ?_
  obtain ⟨inner, hinner⟩ := ToggleBlock.exists_slice?_of_bodyAt? hbody
  rw [hinner, Option.getD_some, Edit.spliced_eq_of_filter_eq (fun _ ↦ Edit.fits_width_iff.mpr)
    (innerFills_filter hinner values hp)]

/-! ### Screening for overlaps -/

/-- The places that overlap no span that is taken and none that is chosen before them. -/
def chosen (taken : List Span) : List (Declaration × Span) → List (Declaration × Span)
  | [] => []
  | place :: rest =>
    if taken.any (·.overlaps place.2) then chosen taken rest
    else place :: chosen (taken ++ [place.2]) rest

/-- The fills that are added are those of the chosen places. -/
theorem addFills_map (values : ValueMap) (edits : List Edit)
    (places : List (Declaration × Span)) :
    addFills edits (places.map (fillAt values)) =
      edits ++ (chosen (edits.map (·.span)) places).map (fillAt values) := by
  induction places generalizing edits with
  | nil => exact (List.append_nil edits).symm
  | cons place places ih =>
    have hany : (edits.map (·.span)).any (·.overlaps place.2) =
        edits.any fun e ↦ e.span.overlaps (fillAt values place).span := List.any_map
    rw [List.map_cons, addFills, List.foldl_cons, ← addFills, chosen, hany]
    split
    · exact ih edits
    · rw [ih, List.map_append, List.map_cons, List.append_assoc]
      rfl

theorem chosen_sublist (taken : List Span) (places : List (Declaration × Span)) :
    (chosen taken places).Sublist places := by
  induction places generalizing taken with
  | nil => exact List.Sublist.refl _
  | cons place places ih =>
    rw [chosen]
    split
    · exact (ih taken).cons place
    · exact (ih _).cons_cons place

/-- A place that is not chosen overlaps a span that is taken, or it is hidden by a place that is
chosen. -/
theorem mem_chosen_or_hidden {places : List (Declaration × Span)}
    (hplaces : places.Pairwise fun a b ↦ b.2.start ≤ a.2.start) (taken : List Span)
    {place : Declaration × Span} (hplace : place ∈ places) :
    place ∈ chosen taken places ∨ (∃ s ∈ taken, s.overlaps place.2 = true) ∨
      ∃ other ∈ chosen taken places, other.2.Hides place.2 := by
  induction places generalizing taken with
  | nil => cases hplace
  | cons first places ih =>
    obtain ⟨hfirst, hrest⟩ := List.pairwise_cons.mp hplaces
    rw [chosen]
    split
    · rename_i hany
      rcases List.mem_cons.mp hplace with rfl | hplace
      · exact Or.inr (Or.inl (List.any_eq_true.mp hany))
      · exact ih hrest taken hplace
    · rcases List.mem_cons.mp hplace with rfl | hplace
      · exact Or.inl List.mem_cons_self
      · rcases ih hrest (taken ++ [first.2]) hplace with hmem | ⟨s, hs, hoverlaps⟩ | hhidden
        · exact Or.inl (List.mem_cons_of_mem _ hmem)
        · rcases List.mem_append.mp hs with hs | hs
          · exact Or.inr (Or.inl ⟨s, hs, hoverlaps⟩)
          · rw [List.mem_singleton.mp hs] at hoverlaps
            exact Or.inr (Or.inr ⟨first, List.mem_cons_self, hfirst place hplace, hoverlaps⟩)
        · obtain ⟨other, hother, hhides⟩ := hhidden
          exact Or.inr (Or.inr ⟨other, List.mem_cons_of_mem _ hother, hhides⟩)

/-- Places that hide none of the others can be left out before or after choosing. A place that is
left out may be chosen, and then it overlaps none of those that stay. -/
theorem filter_chosen {p : Declaration × Span → Bool} {places : List (Declaration × Span)}
    (hplaces : places.Pairwise fun a b ↦ p a = false → p b = true → a.2.overlaps b.2 = false)
    {taken taken' : List Span}
    (htaken : ∀ place ∈ places, p place = true →
      taken'.any (·.overlaps place.2) = taken.any (·.overlaps place.2)) :
    (chosen taken' places).filter p = chosen taken (places.filter p) := by
  induction places generalizing taken taken' with
  | nil => rfl
  | cons first places ih =>
    obtain ⟨hfirst, hrest⟩ := List.pairwise_cons.mp hplaces
    obtain ⟨htakenFirst, htakenRest⟩ := List.forall_mem_cons.mp htaken
    by_cases hp : p first = true
    · rw [List.filter_cons_of_pos hp, chosen, chosen, htakenFirst hp]
      split
      · exact ih hrest htakenRest
      · rw [List.filter_cons_of_pos hp, ih hrest fun place hplace hpplace ↦ ?_]
        rw [List.any_append, List.any_append, htakenRest place hplace hpplace]
    · rw [List.filter_cons_of_neg hp, chosen]
      split
      · exact ih hrest htakenRest
      · rw [List.filter_cons_of_neg hp]
        refine ih hrest fun place hplace hpplace ↦ ?_
        rw [List.any_append, htakenRest place hplace hpplace, List.any_cons,
          hfirst place hplace (Bool.not_eq_true _ ▸ hp) hpplace, List.any_nil, Bool.or_false,
          Bool.or_false]

/-! ### Another flat control -/

/-- Whether a rendering with another declaration makes the edits that resolve the blocks and, of the
fills that it makes without, all that are not screened out by these and not hidden by a place of the
other declaration; and whether the same comes out if no fill is hidden. -/
structure LosesOnlyHidden (t : Text) (ds : List Declaration) (d : Declaration)
    (values : ValueMap) : Prop where
  exists_kept : ∃ (resolving kept : List Edit) (output : Text),
    Computes t ds (blockEdits · t (Declaration.distinct ds) values) resolving ∧
    kept.Sublist (fills values (Declaration.distinct ds)) ∧
    Computes t (ds ++ [d]) (renderWith · t (ds ++ [d]) values) output ∧
    Edit.splice t (resolving ++ kept) = .ok output ∧
    ∀ f ∈ fills values (Declaration.distinct ds), f ∈ kept ∨
      (∃ e ∈ resolving, e.span.overlaps f.span = true) ∨
      (∃ e ∈ kept, e.span.Hides f.span) ∨
      ∃ n ∈ d :: d.nested, ∃ s ∈ n.spans, s.Hides f.span
  exists_output : (∀ n ∈ d :: d.nested, ∀ s ∈ n.spans,
      ∀ f ∈ fills values (Declaration.distinct ds), ¬ s.Hides f.span) →
    ∃ output, Computes t (ds ++ [d]) (renderWith · t (ds ++ [d]) values) output ∧
      Computes t ds (renderWith · t ds values) output

/-- Whether a control is none of those that a declaration with those nested in it declares. -/
def isOther (d c : Declaration) : Bool := (d :: d.nested).all fun n ↦ c.key != n.key

/-- A control is not another one than those of a declaration exactly if it has one of their keys. -/
theorem isOther_eq_false_iff {d c : Declaration} :
    isOther d c = false ↔ ∃ n ∈ d :: d.nested, c.key = n.key := by
  simp only [isOther, List.all_eq_false, bne_iff_ne, ne_eq, Decidable.not_not]

section Misfit

variable {t : Text} {ds : List Declaration} {d : Declaration} (h : d.IsMisfit t ds)
include h

/-- The other controls are those that are declared without the added declaration. -/
theorem filter_distinct_append :
    (Declaration.distinct (ds ++ [d])).filter (isOther d) = Declaration.distinct ds := by
  have hkept : (Declaration.flatten ds).filter (isOther d) = Declaration.flatten ds := by
    refine List.filter_eq_self.mpr fun other hother ↦ ?_
    rw [← Bool.not_eq_false, isOther_eq_false_iff]
    rintro ⟨n, hn, hkey⟩
    exact h.isOther n hn other hother hkey
  have hnone : (d :: d.nested).filter (isOther d) = [] := by
    refine List.filter_eq_nil_iff.mpr fun n hn ↦ ?_
    rw [Bool.not_eq_true, isOther_eq_false_iff]
    exact ⟨n, hn, rfl⟩
  have hflatten : Declaration.flatten (ds ++ [d]) = Declaration.flatten ds ++ (d :: d.nested) := by
    simp [Declaration.flatten]
  have hfilter := Declaration.filter_key_distinct
    (fun k ↦ (d :: d.nested).all fun n ↦ k != n.key) (ds ++ [d])
  rw [hflatten, List.filter_append] at hfilter
  exact hfilter.trans (by
    rw [Declaration.distinct]
    congr 3
    exact (congrArg₂ _ hkept hnone).trans (List.append_nil _))

/-- The places of the other control are its own. -/
theorem exists_mem_spans_of_isOther_eq_false {place : Declaration × Span}
    (hplace : place ∈ flatPlaces (Declaration.distinct (ds ++ [d])))
    (hother : isOther d place.1 = false) : ∃ n ∈ d :: d.nested, place.2 ∈ n.spans := by
  obtain ⟨hc, -, hs⟩ := mem_flatPlaces_iff.mp hplace
  obtain ⟨own, hown, hkey, hs⟩ := (Declaration.mem_spans_of_mem_distinct hc).mp hs
  obtain ⟨n, hn, hkey'⟩ := isOther_eq_false_iff.mp hother
  rw [Declaration.flatten, List.flatMap_append] at hown
  rcases List.mem_append.mp hown with hown | hown
  · exact absurd (hkey.trans hkey') (h.isOther n hn own hown)
  · rw [List.flatMap_singleton] at hown
    exact ⟨own, hown, hs⟩

/-- None of the places of the added declaration fits. -/
theorem not_fits_of_isOther_eq_false {place : Declaration × Span}
    (hplace : place ∈ flatPlaces (Declaration.distinct (ds ++ [d])))
    (hother : isOther d place.1 = false) : ¬ place.2.Fits t := by
  obtain ⟨n, hn, hs⟩ := exists_mem_spans_of_isOther_eq_false h hplace hother
  exact h.not_fits n hn _ hs

/-- Without the added declaration, the fills are those of the other controls. -/
theorem fills_distinct (values : ValueMap) : fills values (Declaration.distinct ds) =
    ((flatPlaces (Declaration.distinct (ds ++ [d]))).filter fun place ↦ isOther d place.1).map
      (fillAt values) := by
  rw [filter_flatPlaces, filter_distinct_append h, fills_eq_map]

/-- The blocks are resolved as without the other control. -/
theorem resolutions_append (values : ValueMap) :
    resolutions t (Declaration.distinct (ds ++ [d])) values =
      resolutions t (Declaration.distinct ds) values := by
  have hblocks : blocks values (Declaration.distinct ds) =
      blocks values (Declaration.distinct (ds ++ [d])) := by
    rw [← filter_distinct_append h]
    refine blocks_filter values fun c hc htoggle ↦ ?_
    rw [← Bool.not_eq_false, isOther_eq_false_iff]
    rintro ⟨n, hn, hkey⟩
    exact h.isFlat n hn ((Prod.mk.inj hkey).1 ▸ beq_iff_eq.mp htoggle)
  have hedit := funext (resolution?_filter values fun _ hplace hother ↦
    not_fits_of_isOther_eq_false h hplace hother)
  rw [resolutions, resolutions, hblocks, fills_distinct h, hedit, fills_eq_map]

/-- Of the chosen places those of the other control do not fit, so their fills are not made. -/
theorem rendered_append (values : ValueMap) :
    rendered t (ds ++ [d]) values =
      Edit.spliced t (resolutions t (Declaration.distinct ds) values ++
        ((chosen ((resolutions t (Declaration.distinct ds) values).map (·.span))
          (flatPlaces (Declaration.distinct (ds ++ [d])))).filter
            fun place ↦ isOther d place.1).map (fillAt values)) := by
  rw [rendered, edits, resolutions_append h, fills_eq_map, addFills_map]
  refine Edit.spliced_eq_of_filter_eq (p := fun e ↦ e.fits t t.width)
    (fun _ ↦ Edit.fits_width_iff.mpr) ?_
  rw [List.filter_append, List.filter_append, List.filter_map, List.filter_map,
    List.filter_filter]
  congr 2
  refine List.filter_congr fun place hplace ↦ Bool.eq_iff_iff.mpr ?_
  rw [Bool.and_eq_true]
  refine ⟨fun hfit ↦ ⟨hfit, ?_⟩, And.left⟩
  rw [← Bool.not_eq_false]
  exact fun hother ↦ not_fits_of_isOther_eq_false h ((chosen_sublist _ _).subset hplace) hother
    (Edit.fits_width_iff.mp hfit)

/-- A fill that is made without the other control is made with it, or it is screened out. -/
theorem mem_kept_or_hidden (values : ValueMap) (taken : List Span) {f : Edit}
    (hf : f ∈ fills values (Declaration.distinct ds)) :
    f ∈ ((chosen taken (flatPlaces (Declaration.distinct (ds ++ [d])))).filter
        fun place ↦ isOther d place.1).map (fillAt values) ∨
      (∃ s ∈ taken, s.overlaps f.span = true) ∨
      (∃ e ∈ ((chosen taken (flatPlaces (Declaration.distinct (ds ++ [d])))).filter
        fun place ↦ isOther d place.1).map (fillAt values), e.span.Hides f.span) ∨
      ∃ n ∈ d :: d.nested, ∃ s ∈ n.spans, s.Hides f.span := by
  rw [fills_distinct h] at hf
  obtain ⟨place, hplace, rfl⟩ := List.mem_map.mp hf
  obtain ⟨hplace, hother⟩ := List.mem_filter.mp hplace
  rcases mem_chosen_or_hidden (pairwise_flatPlaces _) taken hplace with
    hchosen | hoverlaps | ⟨hider, hhider, hhides⟩
  · exact Or.inl (List.mem_map_of_mem (List.mem_filter.mpr ⟨hchosen, hother⟩))
  · exact Or.inr (Or.inl hoverlaps)
  · cases hhiderOther : isOther d hider.1 with
    | true =>
      refine Or.inr (Or.inr (Or.inl ⟨fillAt values hider, ?_, hhides⟩))
      exact List.mem_map_of_mem (List.mem_filter.mpr ⟨hhider, hhiderOther⟩)
    | false =>
      obtain ⟨n, hn, hs⟩ := exists_mem_spans_of_isOther_eq_false h
        ((chosen_sublist _ _).subset hhider) hhiderOther
      exact Or.inr (Or.inr (Or.inr ⟨n, hn, _, hs, hhides⟩))

/-- Where no fill is hidden, the places of the other control are apart from those behind them. -/
theorem pairwise_apart_of_not_hides (values : ValueMap)
    (hhides : ∀ n ∈ d :: d.nested, ∀ s ∈ n.spans,
      ∀ f ∈ fills values (Declaration.distinct ds), ¬ s.Hides f.span) :
    (flatPlaces (Declaration.distinct (ds ++ [d]))).Pairwise fun a b ↦
      isOther d a.1 = false → isOther d b.1 = true → a.2.overlaps b.2 = false := by
  refine (pairwise_flatPlaces _).imp_of_mem fun {a b} ha hb hle haother hbother ↦ ?_
  obtain ⟨n, hn, hs⟩ := exists_mem_spans_of_isOther_eq_false h ha haother
  have hfill : fillAt values b ∈ fills values (Declaration.distinct ds) := by
    rw [fills_distinct h]
    exact List.mem_map_of_mem (List.mem_filter.mpr ⟨hb, hbother⟩)
  rw [← Bool.not_eq_true]
  exact fun hoverlaps ↦ hhides n hn a.2 hs _ hfill ⟨hle, hoverlaps⟩

/-- Where no fill is hidden, the same edits are made without the other control. -/
theorem rendered_append_of_not_hides (values : ValueMap)
    (hhides : ∀ n ∈ d :: d.nested, ∀ s ∈ n.spans,
      ∀ f ∈ fills values (Declaration.distinct ds), ¬ s.Hides f.span) :
    rendered t (ds ++ [d]) values = rendered t ds values := by
  rw [rendered_append h, filter_chosen (pairwise_apart_of_not_hides h values hhides)
    fun _ _ _ ↦ rfl, ← addFills_map, ← fills_distinct h, ← edits, ← rendered]

/-- Another flat control none of whose places fits makes no difference but to the places that it
hides. -/
theorem losesOnlyHidden_of_isMisfit (values : ValueMap) : LosesOnlyHidden t ds d values where
  exists_kept := by
    refine ⟨_, _, _, computes_resolutions t ds values, ?_, computes_rendered t (ds ++ [d]) values,
      (Edit.splice_eq t _).trans (congrArg Except.ok (rendered_append h values).symm),
      fun f hf ↦ ?_⟩
    · rw [fills_distinct h]
      exact ((chosen_sublist _ _).filter _).map _
    · refine (mem_kept_or_hidden h values _ hf).imp_right (Or.imp_left ?_)
      rintro ⟨s, hs, hoverlaps⟩
      obtain ⟨e, he, rfl⟩ := List.mem_map.mp hs
      exact ⟨e, he, hoverlaps⟩
  exists_output hhides := by
    refine ⟨_, computes_rendered t (ds ++ [d]) values, ?_⟩
    rw [rendered_append_of_not_hides h values hhides]
    exact computes_rendered t ds values

end Misfit

/-- A place that is empty, one from right to left, one beyond the text and one that cuts a
character. -/
theorem losesOnlyHidden_of_isMisfit_everyKind :
    ∃ (ds : List Declaration) (d : Declaration),
      ds = [{ Declaration.single .text ['A'] ⟨2, 14⟩ with defaultValue := ['x'] }] ∧
      d = { Declaration.single .slider ['B'] ⟨0, 0⟩ with
        occurrences := [⟨0, 0⟩, ⟨2, 1⟩, ⟨14, 20⟩, ⟨0, 1⟩] } ∧
      d.IsMisfit "é{{text:A:x}}".toList ds ∧
      ∃ output,
        Computes "é{{text:A:x}}".toList (ds ++ [d])
          (renderWith · "é{{text:A:x}}".toList (ds ++ [d]) ValueMap.empty) output ∧
        Computes "é{{text:A:x}}".toList ds
          (renderWith · "é{{text:A:x}}".toList ds ValueMap.empty) output := by
  have hmisfit : Declaration.IsMisfit "é{{text:A:x}}".toList
      [{ Declaration.single .text ['A'] ⟨2, 14⟩ with defaultValue := ['x'] }]
      { Declaration.single .slider ['B'] ⟨0, 0⟩ with
        occurrences := [⟨0, 0⟩, ⟨2, 1⟩, ⟨14, 20⟩, ⟨0, 1⟩] } := by decide
  exact ⟨_, _, rfl, rfl, hmisfit,
    (losesOnlyHidden_of_isMisfit hmisfit ValueMap.empty).exists_output (by decide)⟩

/-- A place that begins in another one and reaches beyond the text is not filled in, and neither is
the other one. -/
theorem render_misfit_hiding :
    Declaration.IsMisfit "{{text:A:x}}".toList
        [{ Declaration.single .text ['A'] ⟨0, 12⟩ with defaultValue := ['x'] }]
        (Declaration.single .text ['B'] ⟨5, 100⟩) ∧
      render "{{text:A:x}}".toList
        [{ Declaration.single .text ['A'] ⟨0, 12⟩ with defaultValue := ['x'] }]
        ValueMap.empty = .ok ['x'] ∧
      render "{{text:A:x}}".toList
        ([{ Declaration.single .text ['A'] ⟨0, 12⟩ with defaultValue := ['x'] }] ++
          [Declaration.single .text ['B'] ⟨5, 100⟩]) ValueMap.empty =
        .ok "{{text:A:x}}".toList := by
  decide

end Rendering

end PromptTemplate
