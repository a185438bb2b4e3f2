import PromptTemplate.Number.Shortest
import PromptTemplate.Proofs.RoundedNumbers

/-!
The shortest digits of a number are rounded to it. A point of a decimal grid is tried against the
interval of the fractions that are rounded to the number (`holds_iff`). On a grid that is finer than
the interval is wide one of the two points next to the number lies in it (`isSome_nearest?`), and
the sixteenth grid below the first digit of the number is so fine, since no significand has more
than 53 binary digits (`contains_digits`). So the search always ends at such a point, and what it
finds is rounded to the number (`roundsTo_digits`).
-/

set_option autoImplicit false
set_option relaxedAutoImplicit false

namespace PromptTemplate.Shortest

open Binary64 (IsCanonical RoundsTo)

/-! ### Fractions -/

/-- What a fraction stands for. -/
def Fraction.value (x : Fraction) : ℚ := x.numerator / x.denominator

theorem Fraction.shifted_pos {x : Fraction} (hx : 0 < x.denominator) (shift : Int) :
    0 < (x.shifted shift).denominator := by
  cases shift with
  | ofNat k => exact hx
  | negSucc k => exact Nat.mul_pos hx (Nat.pow_pos (by decide))

theorem Fraction.value_shifted (x : Fraction) (shift : Int) :
    (x.shifted shift).value = x.value * 10 ^ shift := by
  cases shift with
  | ofNat k =>
    simp only [value, shifted, Nat.pow_eq, Nat.cast_mul, Nat.cast_pow, Nat.cast_ofNat,
      Int.ofNat_eq_natCast, zpow_natCast]
    ring
  | negSucc k =>
    simp only [value, shifted, Nat.pow_eq, Nat.cast_mul, Nat.cast_pow, Nat.cast_ofNat, zpow_negSucc]
    rw [div_mul_eq_div_div, div_eq_mul_inv]

/-- The number of the digits of a natural number says between which powers of ten it lies. -/
theorem length_text_bounds {n : Nat} (hn : 0 < n) :
    10 ^ ((Nat.toDigits 10 n).length - 1) ≤ n ∧ n < 10 ^ (Nat.toDigits 10 n).length := by
  have hlength : 0 < (Nat.toDigits 10 n).length := Nat.length_toDigits_pos
  refine ⟨?_, (Nat.length_toDigits_le_iff (by decide) hlength).mp (le_refl _)⟩
  rcases Nat.eq_or_lt_of_le hlength with hone | hmore
  · rw [← hone]
    exact hn
  · by_contra hlt
    have := (Nat.length_toDigits_le_iff (b := 10) (by decide) (Nat.sub_pos_of_lt hmore)).mpr
      (not_le.mp hlt)
    omega

/-- The estimated power of ten is at most the fraction. Below one it is that of the digits of the
reciprocal. -/
theorem Fraction.pow_floorLog10_le {x : Fraction} (hnumerator : 0 < x.numerator)
    (hdenominator : 0 < x.denominator) : (10 : ℚ) ^ x.floorLog10 ≤ x.value := by
  have hn : (0 : ℚ) < x.numerator := by exact_mod_cast hnumerator
  have hd : (0 : ℚ) < x.denominator := by exact_mod_cast hdenominator
  rw [floorLog10, value]
  split
  · rename_i hle
    have hquotient : 0 < x.numerator / x.denominator := Nat.div_pos hle hdenominator
    obtain ⟨hlow, -⟩ := length_text_bounds hquotient
    have hlength : 0 < (Nat.toDigits 10 (x.numerator / x.denominator)).length :=
      Nat.length_toDigits_pos
    have hcast : ((Nat.toDigits 10 (x.numerator / x.denominator)).length : Int) - 1 =
        ((Nat.toDigits 10 (x.numerator / x.denominator)).length - 1 : Nat) := by omega
    rw [hcast, zpow_natCast, le_div_iff₀ hd]
    exact_mod_cast (Nat.le_div_iff_mul_le hdenominator).mp hlow
  · rename_i hlt
    generalize hceiling : (x.denominator + x.numerator - 1) / x.numerator = ceiling
    have hle : x.denominator ≤ x.numerator * ceiling := by
      have := Nat.lt_mul_div_succ (x.denominator + x.numerator - 1) hnumerator
      rw [hceiling, Nat.mul_add, Nat.mul_one] at this
      omega
    have htwo : 1 < ceiling := by
      by_contra hone
      have : x.numerator * ceiling ≤ x.numerator * 1 := Nat.mul_le_mul_left _ (not_lt.mp hone)
      omega
    obtain ⟨-, hhigh⟩ := length_text_bounds (Nat.sub_pos_of_lt htwo)
    have hpower : x.denominator ≤ x.numerator *
        10 ^ (Nat.toDigits 10 (ceiling - 1)).length :=
      hle.trans (Nat.mul_le_mul_left _ (by omega))
    rw [zpow_neg, zpow_natCast, inv_le_comm₀ (by positivity) (div_pos hn hd), inv_div,
      div_le_iff₀ hn, mul_comm]
    exact_mod_cast hpower

/-! ### The interval of a number -/

namespace Interval

/-- Whether a number lies in an interval. The ends belong to one that is closed. -/
structure Contains (i : Interval) (q : ℚ) : Prop where
  low_le : i.low * 2 ^ i.exponent ≤ q
  le_high : q ≤ i.high * 2 ^ i.exponent
  closed_of_end : q = i.low * 2 ^ i.exponent ∨ q = i.high * 2 ^ i.exponent → i.closed = true

variable (i : Interval)

theorem contains_of_lt {q : ℚ} (hlow : i.low * 2 ^ i.exponent < q)
    (hhigh : q < i.high * 2 ^ i.exponent) : i.Contains q :=
  ⟨hlow.le, hhigh.le, fun hend ↦ (hend.elim hlow.ne' hhigh.ne).elim⟩

theorem onGrid_pos (quarters : Nat) (place : Int) : 0 < (i.onGrid quarters place).denominator :=
  Fraction.shifted_pos (Binary64.scaled_pos Nat.one_pos _) _

/-- A quantity on a grid is counted in steps of the grid. -/
theorem value_onGrid (quarters : Nat) (place : Int) :
    (i.onGrid quarters place).value = quarters * 2 ^ i.exponent / 10 ^ place := by
  have hscaled := Binary64.scaled_div quarters 1 i.exponent
  rw [Nat.cast_one, div_one] at hscaled
  rw [onGrid, Fraction.value_shifted, zpow_neg, ← div_eq_mul_inv]
  exact congrArg (· / _) hscaled

/-- Comparing natural terms with a multiple of the step is comparing the quantity with a grid point.
-/
theorem numerator_le_iff (quarters k : Nat) (place : Int) :
    (i.onGrid quarters place).numerator ≤ k * (i.onGrid quarters place).denominator ↔
      (quarters : ℚ) * 2 ^ i.exponent ≤ k * 10 ^ place := by
  have hpos : (0 : ℚ) < (i.onGrid quarters place).denominator := by
    exact_mod_cast i.onGrid_pos quarters place
  rw [← div_le_iff₀ (by positivity), ← i.value_onGrid, Fraction.value, div_le_iff₀ hpos]
  exact_mod_cast Iff.rfl

theorem le_numerator_iff (quarters k : Nat) (place : Int) :
    k * (i.onGrid quarters place).denominator ≤ (i.onGrid quarters place).numerator ↔
      (k : ℚ) * 10 ^ place ≤ quarters * 2 ^ i.exponent := by
  have hpos : (0 : ℚ) < (i.onGrid quarters place).denominator := by
    exact_mod_cast i.onGrid_pos quarters place
  rw [← le_div_iff₀ (by positivity), ← i.value_onGrid, Fraction.value, le_div_iff₀ hpos]
  exact_mod_cast Iff.rfl

/-- A point of a grid is tried with natural numbers only. -/
theorem holds_iff (k : Nat) (place : Int) :
    i.holds k place = true ↔ i.Contains (k * 10 ^ place) := by
  cases hclosed : i.closed with
  | true =>
    simp only [holds, hclosed, if_true, Bool.and_eq_true, decide_eq_true_eq, numerator_le_iff,
      le_numerator_iff]
    exact ⟨fun h ↦ ⟨h.1, h.2, fun _ ↦ hclosed⟩, fun h ↦ ⟨h.low_le, h.le_high⟩⟩
  | false =>
    simp only [holds, hclosed, Bool.false_eq_true, if_false, Bool.and_eq_true, decide_eq_true_eq,
      ← not_le, numerator_le_iff, le_numerator_iff]
    constructor
    · rintro ⟨hlow, hhigh⟩
      refine ⟨(not_le.mp hlow).le, (not_le.mp hhigh).le, ?_⟩
      rintro (heq | heq)
      · exact absurd heq.le hlow
      · exact absurd heq.ge hhigh
    · intro h
      have hends := h.closed_of_end
      rw [hclosed] at hends
      refine ⟨fun hle ↦ ?_, fun hle ↦ ?_⟩
      · exact Bool.false_ne_true (hends (Or.inl (le_antisymm hle h.low_le)))
      · exact Bool.false_ne_true (hends (Or.inr (le_antisymm h.le_high hle)))

/-- The number of an interval lies between two neighbours on a grid. -/
theorem nearest_bounds (place : Int) :
    let below := (i.onGrid i.value place).numerator / (i.onGrid i.value place).denominator
    (below : ℚ) * 10 ^ place ≤ i.value * 2 ^ i.exponent ∧
      (i.value : ℚ) * 2 ^ i.exponent < (below + 1 : Nat) * 10 ^ place := by
  have hpos := i.onGrid_pos i.value place
  refine ⟨(i.le_numerator_iff _ _ _).mp (Nat.div_mul_le_self _ _), ?_⟩
  rw [← not_le, ← i.le_numerator_iff, not_le, Nat.mul_comm]
  exact Nat.lt_mul_div_succ _ hpos

/-- The nearest point of a grid lies in the interval if it is found. -/
theorem contains_of_nearest? {k : Nat} {place : Int} (h : i.nearest? place = some k) :
    i.Contains (k * 10 ^ place) := by
  rw [← i.holds_iff]
  simp only [nearest?] at h
  split at h
  · rename_i hbelow habove
    split at h
    · rwa [← Option.some.inj h]
    · rwa [← Option.some.inj h]
  · rwa [← Option.some.inj h]
  · rwa [← Option.some.inj h]
  · cases h

/-- On a grid that is finer than the interval is wide, one of the neighbours of the number lies in
the interval. If the lower one is at most the low end, the upper one is below the high end. -/
theorem isSome_nearest? {place : Int} (hlow : i.low < i.value) (hhigh : i.value < i.high)
    (hfine : (10 : ℚ) ^ place < (i.high - i.low) * 2 ^ i.exponent) :
    (i.nearest? place).isSome = true := by
  have hpower : (0 : ℚ) < 2 ^ i.exponent := by positivity
  have hlow' : (i.low : ℚ) * 2 ^ i.exponent < i.value * 2 ^ i.exponent :=
    mul_lt_mul_of_pos_right (by exact_mod_cast hlow) hpower
  have hhigh' : (i.value : ℚ) * 2 ^ i.exponent < i.high * 2 ^ i.exponent :=
    mul_lt_mul_of_pos_right (by exact_mod_cast hhigh) hpower
  obtain ⟨hbelow, habove⟩ := i.nearest_bounds place
  generalize hneighbour : (i.onGrid i.value place).numerator /
    (i.onGrid i.value place).denominator = below at hbelow habove
  have hholds : i.holds below place = true ∨ i.holds (below + 1) place = true := by
    rw [i.holds_iff, i.holds_iff]
    by_cases hle : (below : ℚ) * 10 ^ place ≤ i.low * 2 ^ i.exponent
    · refine Or.inr (i.contains_of_lt (hlow'.trans habove) ?_)
      rw [Nat.cast_add, Nat.cast_one]
      linarith
    · exact Or.inl (i.contains_of_lt (not_le.mp hle) (hbelow.trans_lt hhigh'))
  simp only [nearest?, hneighbour]
  split
  · split <;> rfl
  · rfl
  · rfl
  · rename_i hnot hnot'
    rw [hnot, hnot'] at hholds
    simp at hholds

/-- If some grid has a point in the interval, the coarsest such grid gives one. -/
theorem contains_coarsest {place : Int} {grids : Nat}
    (h : ∃ j < grids, (i.nearest? (place - j)).isSome = true) :
    i.Contains ((i.coarsest place grids).1 * 10 ^ (i.coarsest place grids).2) := by
  induction grids generalizing place with
  | zero =>
    obtain ⟨j, hj, -⟩ := h
    exact absurd hj (Nat.not_lt_zero j)
  | succ grids ih =>
    rw [coarsest]
    split
    · rename_i k hk
      exact i.contains_of_nearest? hk
    · rename_i hnone
      obtain ⟨j, hj, hsome⟩ := h
      cases j with
      | zero =>
        rw [Nat.cast_zero, sub_zero, hnone] at hsome
        cases hsome
      | succ j =>
        refine ih ⟨j, Nat.lt_of_succ_lt_succ hj, ?_⟩
        rwa [sub_sub, ← Nat.cast_one, ← Nat.cast_add, Nat.add_comm]

end Interval

/-! ### The digits of a number -/

section Digits

variable {m : Nat} {e : Int}

/-- The ends of the interval of a number, in quarters of its unit. -/
theorem low_ofFinite (hpos : 0 < m) :
    ((Interval.ofFinite m e).low : ℚ) = 4 * (m - Binary64.unitsBelow m e) := by
  by_cases hnarrow : m = 2 ^ 52 ∧ Binary64.leastExponent < e
  · have hlow : (Interval.ofFinite m e).low = 4 * m - 1 :=
      congrArg (4 * m - ·) (if_pos hnarrow)
    rw [hlow, Binary64.unitsBelow, if_pos hnarrow, Nat.cast_sub (by omega)]
    push_cast
    ring
  · have hlow : (Interval.ofFinite m e).low = 4 * m - 2 :=
      congrArg (4 * m - ·) (if_neg hnarrow)
    rw [hlow, Binary64.unitsBelow, if_neg hnarrow, Nat.cast_sub (by omega)]
    push_cast
    ring

theorem high_ofFinite : ((Interval.ofFinite m e).high : ℚ) = 4 * (m + 1 / 2) := by
  have hhigh : (Interval.ofFinite m e).high = 4 * m + 2 := rfl
  rw [hhigh]
  push_cast
  ring

theorem four_mul_zpow (e : Int) (q : ℚ) : 4 * q * 2 ^ (e - 2) = q * 2 ^ e := by
  rw [zpow_sub₀ two_ne_zero]
  norm_num
  ring

/-- The interval of a number holds what is rounded to it. -/
theorem roundsTo_of_contains (hpos : 0 < m) {q : ℚ} (h : (Interval.ofFinite m e).Contains q) :
    RoundsTo q m e := by
  have hlow : ((Interval.ofFinite m e).low : ℚ) * 2 ^ (Interval.ofFinite m e).exponent =
      (m - Binary64.unitsBelow m e) * 2 ^ e := by
    rw [low_ofFinite hpos]
    exact four_mul_zpow e _
  have hhigh : ((Interval.ofFinite m e).high : ℚ) * 2 ^ (Interval.ofFinite m e).exponent =
      (m + 1 / 2) * 2 ^ e := by
    rw [high_ofFinite]
    exact four_mul_zpow e _
  refine ⟨hlow ▸ h.low_le, hhigh ▸ h.le_high, fun hend ↦ ?_⟩
  rw [← hlow, ← hhigh] at hend
  exact beq_iff_eq.mp (h.closed_of_end hend)

/-- The digits of a number lie in its interval: seventeen of them are fine enough. -/
theorem contains_digits (hm : IsCanonical m e) (hpos : 0 < m) :
    (Interval.ofFinite m e).Contains ((digits m e).1 * 10 ^ (digits m e).2) := by
  generalize hi : Interval.ofFinite m e = i
  have hlow : (i.low : ℚ) = 4 * (m - Binary64.unitsBelow m e) := hi ▸ low_ofFinite hpos
  have hhigh : (i.high : ℚ) = 4 * (m + 1 / 2) := hi ▸ high_ofFinite
  have hvalue : (i.value : ℚ) = 4 * m := by rw [← hi]; exact Nat.cast_mul 4 m
  have hpower : (0 : ℚ) < 2 ^ i.exponent := by positivity
  have hone : (1 : ℚ) ≤ m := by exact_mod_cast hpos
  have hunits : 0 < Binary64.unitsBelow m e := by
    rcases Binary64.unitsBelow_cases m e with h | ⟨-, h⟩ <;>
    · rw [h]
      norm_num
  have hdigits : digits m e = i.coarsest ((i.onGrid i.value 0).floorLog10) 17 := by
    rw [digits, if_neg hpos.ne', hi]
  have hfirst : (10 : ℚ) ^ (i.onGrid i.value 0).floorLog10 ≤ 4 * m * 2 ^ i.exponent := by
    have hgrid := i.value_onGrid i.value 0
    rw [zpow_zero, div_one, hvalue] at hgrid
    rw [← hgrid]
    refine Fraction.pow_floorLog10_le (Nat.pos_of_ne_zero fun hzero ↦ ?_) (i.onGrid_pos _ _)
    rw [Fraction.value, hzero, Nat.cast_zero, zero_div] at hgrid
    exact absurd hgrid (by positivity)
  rw [hdigits]
  refine i.contains_coarsest ⟨16, by decide, i.isSome_nearest? ?_ ?_ ?_⟩
  · have : (i.low : ℚ) < i.value := by
      rw [hlow, hvalue]
      linarith
    exact_mod_cast this
  · have : (i.value : ℚ) < i.high := by
      rw [hhigh, hvalue]
      linarith
    exact_mod_cast this
  · have hwidth : 4 * (m : ℚ) / 10 ^ 16 < i.high - i.low := by
      rw [hlow, hhigh]
      rcases Binary64.unitsBelow_cases m e with h | ⟨rfl, h⟩
      · have hlt : (m : ℚ) < 2 ^ 53 := by exact_mod_cast hm.lt
        rw [h, div_lt_iff₀ (by norm_num)]
        linarith
      · rw [h]
        norm_num
    calc (10 : ℚ) ^ ((i.onGrid i.value 0).floorLog10 - (16 : Nat))
        = 10 ^ (i.onGrid i.value 0).floorLog10 / 10 ^ 16 := by
          rw [zpow_sub₀ (by norm_num), zpow_natCast]
      _ ≤ 4 * m * 2 ^ i.exponent / 10 ^ 16 := by gcongr
      _ = 4 * m / 10 ^ 16 * 2 ^ i.exponent := by ring
      _ < (i.high - i.low) * 2 ^ i.exponent := mul_lt_mul_of_pos_right hwidth hpower

/-- The shortest digits of a number are rounded to it. -/
theorem roundsTo_digits (hm : IsCanonical m e) (hpos : 0 < m) :
    RoundsTo ((digits m e).1 * 10 ^ (digits m e).2) m e :=
  roundsTo_of_contains hpos (contains_digits hm hpos)

end Digits

end PromptTemplate.Shortest
