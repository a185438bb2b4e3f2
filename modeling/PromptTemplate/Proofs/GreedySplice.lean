import PromptTemplate.Proofs.SpliceReading

/-!
Splicing makes a greedy choice of edits. It goes through the edits from the right to the left, those
that start together in the order in which they are listed, and takes each one that covers whole
characters of the source and stops where the last one that was taken starts or before
(`Edit.takeNext`). The loop of a splice keeps a limit in place of the edits that it took: it is the
start of the last of them (`Edit.foldl_takeNext`).

What comes out is the source with the spans of the taken edits replaced, and each replacement is
that of a slice of what the source has become by then. Edits that cover whole characters and share
no byte are all taken, so for them it makes no difference in which order they are listed
(`Edit.splicesGreedily`).
-/

set_option autoImplicit false
set_option relaxedAutoImplicit false

namespace PromptTemplate.Edit

/-- Adds an edit to those that are taken, if it covers whole characters of the source and stops
where the last one that was taken starts or before. -/
def takeNext (source : Text) (made : List Edit) (e : Edit) : List Edit :=
  if e.span.Fits source ∧ ∀ last ∈ made.getLast?, e.span.stop ≤ last.span.start then made ++ [e]
  else made

/-- The edits that are taken when they are gone through from the right to the left, in the order in
which they are taken. -/
def takenFromRight (source : Text) (edits : List Edit) : List Edit :=
  (rightmostFirst edits).foldl (takeNext source) []

/-- Whether edits are listed from the right to the left, those that start together in the order in
which they are listed elsewhere. -/
structure RightmostFirst (edits order : List Edit) : Prop where
  perm : order.Perm edits
  ordered : order.Pairwise fun e e' ↦ e'.span.start ≤ e.span.start
  level : ∀ n, order.filter (·.span.start == n) = edits.filter (·.span.start == n)

/-- Sorting by descending starts is stable. -/
theorem rightmostFirst_rightmostFirst (edits : List Edit) :
    RightmostFirst edits (rightmostFirst edits) where
  perm := sortBy_perm _ edits
  ordered := pairwise_sortBy_ge (fun e : Edit ↦ e.span.start) edits
  level n := filter_level_sortBy_ge (fun e : Edit ↦ e.span.start) n edits

/-! ### What the loop takes -/

variable {source : Text}

/-- Up to where the next edit may reach, when some have been taken. -/
def limitBehind (source : Text) (made : List Edit) : Nat :=
  match made.getLast? with
  | some last => last.span.start
  | none => source.width

@[simp] theorem limitBehind_nil : limitBehind source [] = source.width := rfl

@[simp] theorem limitBehind_concat (made : List Edit) (e : Edit) :
    limitBehind source (made ++ [e]) = e.span.start := by
  rw [limitBehind, List.getLast?_concat]

/-- An edit can be made behind others if it fits and stops before the start of the last one. -/
theorem fits_limitBehind_iff {made : List Edit} {e : Edit} :
    e.fits source (limitBehind source made) = true ↔
      e.span.Fits source ∧ ∀ last ∈ made.getLast?, e.span.stop ≤ last.span.start := by
  rw [fits_iff, limitBehind]
  refine and_congr_right fun hfits ↦ ?_
  cases made.getLast? with
  | none => simpa using hfits.stop_le_width
  | some last => simp

/-- The loop takes the edits that are taken one after the other. -/
theorem foldl_takeNext (es made : List Edit) :
    es.foldl (takeNext source) made = made ++ taken source (limitBehind source made) es := by
  induction es generalizing made with
  | nil => rw [List.foldl_nil, taken, List.append_nil]
  | cons e es ih =>
    rw [List.foldl_cons, ih, taken, takeNext]
    by_cases htake : e.span.Fits source ∧ ∀ last ∈ made.getLast?, e.span.stop ≤ last.span.start
    · rw [if_pos htake, if_pos (fits_limitBehind_iff.mpr htake), limitBehind_concat,
        List.append_assoc, List.singleton_append]
    · rw [if_neg htake, if_neg (mt fits_limitBehind_iff.mp htake)]

/-- Taking edits greedily is the loop that makes them. -/
theorem takenFromRight_eq (edits : List Edit) :
    takenFromRight source edits = taken source source.width (rightmostFirst edits) := by
  rw [takenFromRight, foldl_takeNext, List.nil_append, limitBehind_nil]

/-! ### Edits that share no byte -/

/-- Edits from the right to the left that share no byte are all taken. -/
theorem taken_eq_self {es : List Edit} (hfits : ∀ e ∈ es, e.span.Fits source)
    (hapart : es.Pairwise fun e e' ↦ e.span.Apart e'.span)
    (hordered : es.Pairwise fun e e' ↦ e'.span.start ≤ e.span.start) {limit : Nat}
    (hlimit : ∀ e ∈ es, e.span.stop ≤ limit) : taken source limit es = es := by
  induction es generalizing limit with
  | nil => rfl
  | cons e es ih =>
    obtain ⟨hfirst, hfits⟩ := List.forall_mem_cons.mp hfits
    obtain ⟨hfirstApart, hapart⟩ := List.pairwise_cons.mp hapart
    obtain ⟨hfirstOrdered, hordered⟩ := List.pairwise_cons.mp hordered
    have hlt := hfirst.start_lt_stop
    have hleft : ∀ e' ∈ es, e'.span.stop ≤ e.span.start := by
      intro e' he'
      have hle := hfirstOrdered e' he'
      rcases hfirstApart e' he' with hbehind | hleft
      · omega
      · exact hleft
    rw [taken, if_pos (fits_iff.mpr ⟨hfirst, hlimit e List.mem_cons_self⟩),
      ih hfits hapart hordered hleft]

variable {edits : List Edit}

/-- Edits that fit and share no byte are separate. -/
theorem separate_of_pairwise (hfits : ∀ e ∈ edits, e.span.Fits source)
    (hapart : edits.Pairwise fun e e' ↦ e.span.Apart e'.span) : Separate source edits where
  fits := hfits
  eq_or_apart e he e' he' := by
    have symm : Std.Symm fun e e' : Edit ↦ e.span.Apart e'.span := ⟨fun _ _ ↦ Span.Apart.symm⟩
    by_cases heq : e = e'
    · exact Or.inl heq
    · exact Or.inr (hapart.forall he he' heq)

/-- Edits that fit and share no byte are all taken. -/
theorem takenFromRight_perm (hfits : ∀ e ∈ edits, e.span.Fits source)
    (hapart : edits.Pairwise fun e e' ↦ e.span.Apart e'.span) :
    (takenFromRight source edits).Perm edits := by
  have horder := rightmostFirst_rightmostFirst edits
  have hfits' : ∀ e ∈ rightmostFirst edits, e.span.Fits source :=
    fun e he ↦ hfits e (horder.perm.mem_iff.mp he)
  have hapart' := (horder.perm.pairwise_iff Span.Apart.symm).mpr hapart
  rw [takenFromRight_eq,
    taken_eq_self hfits' hapart' horder.ordered fun e he ↦ (hfits' e he).stop_le_width]
  exact horder.perm

/-- Edits that share no byte can be listed in any order. -/
theorem splice_eq_of_perm {edits' : List Edit} (hfits : ∀ e ∈ edits, e.span.Fits source)
    (hapart : edits.Pairwise fun e e' ↦ e.span.Apart e'.span) (hperm : edits'.Perm edits) :
    splice source edits' = splice source edits := by
  have hseparate := separate_of_pairwise hfits hapart
  have hseparate' : Separate source edits' := hseparate.congr fun e ↦ hperm.mem_iff
  rw [splice_eq_readThrough hseparate, splice_eq_readThrough hseparate',
    readThrough_congr_of_mem_iff (fun e ↦ hperm.mem_iff)
      (fun e he e' he' ↦ hseparate'.eq_of_start_eq he he') 0 0 source]

/-! ### The choice of a splice -/

/-- Whether a splice makes the edits that are taken from the right. -/
structure SplicesGreedily (source : Text) (edits : List Edit) (output : Text) : Prop where
  /-- The edits are gone through from the right to the left. -/
  order : RightmostFirst edits (rightmostFirst edits)
  /-- Each replacement is that of a slice of what the source has become by then. -/
  carriesOut : splice source edits = .ok output
  /-- The spans of those that are taken are replaced, and all else is copied. -/
  replaces : Replaces 0 (takenFromRight source edits).reverse source output
  /-- Edits that share no byte are all taken. -/
  takesAll : (∀ e ∈ edits, e.span.Fits source) →
    (edits.Pairwise fun e e' ↦ e.span.Apart e'.span) → (takenFromRight source edits).Perm edits
  /-- The order in which edits that share no byte are listed makes no difference. -/
  anyOrder : (∀ e ∈ edits, e.span.Fits source) →
    (edits.Pairwise fun e e' ↦ e.span.Apart e'.span) →
      ∀ edits', edits'.Perm edits → splice source edits' = .ok output

/-- For any source and any edits, a splice makes the edits that are taken from the right. -/
theorem splicesGreedily (source : Text) (edits : List Edit) :
    ∃ output, SplicesGreedily source edits output := by
  obtain ⟨output, houtput, hreplaces⟩ := exists_replaces_splice source edits
  exact ⟨output,
    { order := rightmostFirst_rightmostFirst edits
      carriesOut := houtput
      replaces := by rwa [takenFromRight_eq]
      takesAll := takenFromRight_perm
      anyOrder := fun hfits hapart _ hperm ↦
        (splice_eq_of_perm hfits hapart hperm).trans houtput }⟩

/-- Of two edits that start together the one listed first is made, and edits may touch. -/
example : splice ['a', 'é', 'b'] [⟨⟨1, 3⟩, ['x']⟩, ⟨⟨1, 3⟩, ['y']⟩, ⟨⟨3, 4⟩, []⟩] =
    .ok ['a', 'x'] := by decide

end PromptTemplate.Edit
