import Mathlib.Algebra.Order.Field.Power
import Mathlib.Data.Int.Log
import Mathlib.Data.Rat.Floor
import Mathlib.Tactic.FieldSimp
import Mathlib.Tactic.Linarith
import Mathlib.Tactic.Positivity
import Mathlib.Tactic.Ring
import PromptTemplate.Number.Binary64

/-!
Rounding to a floating-point number. A fraction is rounded with natural numbers only: scaling it by
a power of two, finding the power below it and dividing with a remainder are the operations on
rationals of the same names (`scaled_div`, `floorLog2_eq_log`, `roundQuotient_eq`).

Every fraction is rounded to a significand and an exponent that have the form of a number, unless
the exponent is too great (`exists_ofRatio_eq_ofParts`). The fractions that are rounded to a number
make up an interval around it, which is a quarter of a unit instead of half a unit wide below a
power of two (`RoundsTo`, `ofRatio_eq_of_roundsTo`).
-/

set_option autoImplicit false
set_option relaxedAutoImplicit false

namespace PromptTemplate.Binary64

/-! ### Fractions with natural terms -/

theorem scaled_pos {n d : Nat} (hd : 0 < d) (shift : Int) : 0 < (scaled n d shift).2 := by
  cases shift with
  | ofNat k => exact hd
  | negSucc k => exact Nat.mul_pos hd (Nat.pow_pos (by decide))

/-- Scaling a fraction multiplies it by a power of two. -/
theorem scaled_div (n d : Nat) (shift : Int) :
    ((scaled n d shift).1 : ℚ) / (scaled n d shift).2 = n / d * 2 ^ shift := by
  cases shift with
  | ofNat k =>
    simp only [scaled, Nat.pow_eq, Nat.cast_mul, Nat.cast_pow, Nat.cast_ofNat, Int.ofNat_eq_natCast,
      zpow_natCast]
    ring
  | negSucc k =>
    simp only [scaled, Nat.pow_eq, Nat.cast_mul, Nat.cast_pow, Nat.cast_ofNat, zpow_negSucc]
    rw [div_mul_eq_div_div, div_eq_mul_inv]

theorem scaled_neg_div (n d : Nat) (shift : Int) :
    ((scaled n d (-shift)).1 : ℚ) / (scaled n d (-shift)).2 = n / d / 2 ^ shift := by
  rw [scaled_div, zpow_neg, ← div_eq_mul_inv]

/-- A power of two that is a natural number can be split off. -/
theorem two_zpow_add (k : Nat) (e : Int) : (2 : ℚ) ^ ((k : Int) + e) = 2 ^ k * 2 ^ e := by
  rw [zpow_add₀ two_ne_zero, zpow_natCast]

/-- A number lies between the power of two that its logarithm says and the next one. -/
theorem log_eq_of_le_of_lt {q : ℚ} {e : Int} (hle : (2 : ℚ) ^ e ≤ q) (hlt : q < 2 ^ (e + 1)) :
    Int.log 2 q = e := by
  have hq : 0 < q := lt_of_lt_of_le (by positivity) hle
  have hlow := (Int.zpow_le_iff_le_log (b := 2) (by decide) hq).mp (by exact_mod_cast hle)
  have hhigh := (Int.lt_zpow_iff_log_lt (b := 2) (by decide) hq).mp (by exact_mod_cast hlt)
  omega

theorem log2_bounds {n : Nat} (hn : 0 < n) :
    (2 : ℚ) ^ (Nat.log2 n : Int) ≤ n ∧ (n : ℚ) < 2 ^ ((Nat.log2 n : Int) + 1) := by
  constructor
  · rw [zpow_natCast]
    exact_mod_cast Nat.log2_self_le hn.ne'
  · rw [← Nat.cast_succ, zpow_natCast]
    exact_mod_cast Nat.lt_log2_self

/-- The power of two below a fraction is guessed from the terms, and the guess is at most one too
large. -/
theorem floorLog2_eq_log {n d : Nat} (hn : 0 < n) (hd : 0 < d) :
    floorLog2 n d = Int.log 2 ((n : ℚ) / d) := by
  obtain ⟨hnlow, hnhigh⟩ := log2_bounds hn
  obtain ⟨hdlow, hdhigh⟩ := log2_bounds hd
  have hdpos : (0 : ℚ) < d := by exact_mod_cast hd
  generalize hguess : (Nat.log2 n : Int) - Nat.log2 d = guess
  have hpower : ∀ a b : Int, (2 : ℚ) ^ a * 2 ^ b = 2 ^ (a + b) :=
    fun a b ↦ (zpow_add₀ two_ne_zero a b).symm
  have hbelow : (2 : ℚ) ^ (guess - 1) ≤ n / d := by
    rw [le_div_iff₀ hdpos]
    calc (2 : ℚ) ^ (guess - 1) * d ≤ 2 ^ (guess - 1) * 2 ^ ((Nat.log2 d : Int) + 1) := by gcongr
      _ = 2 ^ (Nat.log2 n : Int) := by rw [hpower, ← hguess]; congr 1; omega
      _ ≤ n := hnlow
  have habove : (n : ℚ) / d < 2 ^ (guess + 1) := by
    rw [div_lt_iff₀ hdpos]
    calc (n : ℚ) < 2 ^ ((Nat.log2 n : Int) + 1) := hnhigh
      _ = 2 ^ (guess + 1) * 2 ^ (Nat.log2 d : Int) := by rw [hpower, ← hguess]; congr 1; omega
      _ ≤ 2 ^ (guess + 1) * d := by gcongr
  have hscaled := scaled_div n d (-guess)
  have hscaledPos : (0 : ℚ) < (scaled n d (-guess)).2 := by exact_mod_cast scaled_pos hd (-guess)
  have htest : (scaled n d (-guess)).2 ≤ (scaled n d (-guess)).1 ↔ (2 : ℚ) ^ guess ≤ n / d := by
    rw [← Nat.cast_le (α := ℚ), ← one_le_div hscaledPos, hscaled, zpow_neg,
      ← div_eq_mul_inv, one_le_div (by positivity)]
  simp only [floorLog2, hguess, htest]
  split
  · rename_i hle
    exact (log_eq_of_le_of_lt hle habove).symm
  · rename_i hlt
    refine (log_eq_of_le_of_lt hbelow ?_).symm
    rw [sub_add_cancel]
    exact not_le.mp hlt

/-! ### Rounding a quotient -/

/-- The rounded quotient by its bounds without the denominator. -/
theorem roundQuotient_eq_of_mul {n d k : Nat} (hd : 0 < d) (hlow : 2 * k * d ≤ 2 * n + d)
    (hhigh : 2 * n ≤ 2 * k * d + d)
    (heven : 2 * k * d = 2 * n + d ∨ 2 * n = 2 * k * d + d → k % 2 = 0) :
    roundQuotient n d = k := by
  have hsplit := Nat.div_add_mod n d
  have hmod := Nat.mod_lt n hd
  have hle : k ≤ n / d + 1 := by
    have hlt : 2 * k * d < (2 * (n / d) + 3) * d := by
      calc 2 * k * d ≤ 2 * n + d := hlow
        _ < 2 * (d * (n / d)) + 3 * d := by omega
        _ = (2 * (n / d) + 3) * d := by ring
    have := Nat.lt_of_mul_lt_mul_right hlt
    omega
  have hge : n / d ≤ k := by
    have hlt : 2 * (n / d) * d < (2 * k + 2) * d := by
      calc 2 * (n / d) * d = 2 * (d * (n / d)) := by ring
        _ ≤ 2 * k * d + d := by omega
        _ < 2 * k * d + 2 * d := by omega
        _ = (2 * k + 2) * d := by ring
    have := Nat.lt_of_mul_lt_mul_right hlt
    omega
  simp only [roundQuotient]
  rcases Nat.lt_or_eq_of_le hge with hlt | heq
  · obtain rfl : k = n / d + 1 := by omega
    have hproduct : 2 * (n / d + 1) * d = 2 * (d * (n / d)) + 2 * d := by ring
    split
    · omega
    · split
      · rfl
      · have := heven (by omega)
        split <;> omega
  · rw [← heq] at hlow hhigh heven
    have hproduct : 2 * (n / d) * d = 2 * (d * (n / d)) := by ring
    split
    · exact heq
    · split
      · omega
      · have := heven (by omega)
        split <;> omega

/-- Between two halves lies one natural number, and a half is rounded to the even one. -/
theorem roundQuotient_eq {n d k : Nat} (hd : 0 < d) (hlow : (k : ℚ) - 1 / 2 ≤ n / d)
    (hhigh : (n : ℚ) / d ≤ k + 1 / 2)
    (heven : (n : ℚ) / d = k - 1 / 2 ∨ (n : ℚ) / d = k + 1 / 2 → k % 2 = 0) :
    roundQuotient n d = k := by
  have hdpos : (0 : ℚ) < d := by exact_mod_cast hd
  refine roundQuotient_eq_of_mul hd ?_ ?_ fun hend ↦ heven ?_
  · rw [le_div_iff₀ hdpos] at hlow
    have : (2 * k * d : ℚ) ≤ 2 * n + d := by linarith
    exact_mod_cast this
  · rw [div_le_iff₀ hdpos] at hhigh
    have : (2 * n : ℚ) ≤ 2 * k * d + d := by linarith
    exact_mod_cast this
  · rw [div_eq_iff hdpos.ne', div_eq_iff hdpos.ne']
    refine hend.imp (fun h ↦ ?_) fun h ↦ ?_
    · have : (2 * k * d : ℚ) = 2 * n + d := by exact_mod_cast h
      linarith
    · have : (2 * n : ℚ) = 2 * k * d + d := by exact_mod_cast h
      linarith

/-- A fraction is rounded to one of the natural numbers around it. -/
theorem roundQuotient_bounds {n d low high : Nat} (hd : 0 < d) (hlow : (low : ℚ) ≤ n / d)
    (hhigh : (n : ℚ) / d < high) : low ≤ roundQuotient n d ∧ roundQuotient n d ≤ high := by
  have hdpos : (0 : ℚ) < d := by exact_mod_cast hd
  have hlow' : low ≤ n / d := by
    rw [le_div_iff₀ hdpos] at hlow
    exact (Nat.le_div_iff_mul_le hd).mpr (by exact_mod_cast hlow)
  have hhigh' : n / d < high := by
    rw [div_lt_iff₀ hdpos] at hhigh
    exact (Nat.div_lt_iff_lt_mul hd).mpr (by exact_mod_cast hhigh)
  simp only [roundQuotient]
  split
  · omega
  · split
    · omega
    · split <;> omega

/-! ### The form of a finite number -/

/-- A significand and an exponent in the form of a number make up a number. -/
theorem ofParts_eq {m : Nat} {e : Int} (h : IsCanonical m e) (negative : Bool) :
    ofParts negative m e = .finite negative m e h := dif_pos h

section OfRatio

variable {n d : Nat} (hn : 0 < n) (hd : 0 < d)
include hn hd

/-- A fraction is rounded in units of the power of two that leaves 53 digits, or of the least one.
-/
theorem ofRatio_eq {e : Int} (he : max (Int.log 2 ((n : ℚ) / d) - 52) leastExponent = e)
    (negative : Bool) : ofRatio negative n d =
      let k := roundQuotient (scaled n d (-e)).1 (scaled n d (-e)).2
      if k = 2 ^ 53 then ofParts negative (2 ^ 52) (e + 1) else ofParts negative k e := by
  simp only [ofRatio, if_neg hn.ne', floorLog2_eq_log hn hd, he, Nat.pow_eq]

omit hn in
/-- A scaled fraction is rounded to the nearest number of units, and to the even one of two. -/
theorem roundQuotient_scaled {k : Nat} {e : Int} (hlow : ((k : ℚ) - 1 / 2) * 2 ^ e ≤ n / d)
    (hhigh : (n : ℚ) / d ≤ (k + 1 / 2) * 2 ^ e)
    (heven : (n : ℚ) / d = (k - 1 / 2) * 2 ^ e ∨ (n : ℚ) / d = (k + 1 / 2) * 2 ^ e → k % 2 = 0) :
    roundQuotient (scaled n d (-e)).1 (scaled n d (-e)).2 = k := by
  have hpower : (0 : ℚ) < 2 ^ e := by positivity
  refine roundQuotient_eq (scaled_pos hd _) ?_ ?_ ?_
  · rwa [scaled_neg_div, le_div_iff₀ hpower]
  · rwa [scaled_neg_div, div_le_iff₀ hpower]
  · rwa [scaled_neg_div, div_eq_iff hpower.ne', div_eq_iff hpower.ne']

/-- What a fraction is rounded to has the form of a number, unless the exponent is too great. -/
theorem exists_ofRatio_eq_ofParts (negative : Bool) : ∃ m e,
    ofRatio negative n d = ofParts negative m e ∧ (e ≤ greatestExponent → IsCanonical m e) := by
  have hq : (0 : ℚ) < n / d := div_pos (by exact_mod_cast hn) (by exact_mod_cast hd)
  obtain ⟨unit, hunit⟩ : ∃ unit, max (Int.log 2 ((n : ℚ) / d) - 52) leastExponent = unit :=
    ⟨_, rfl⟩
  have hleast : leastExponent ≤ unit := hunit ▸ le_max_right _ _
  have hpower : (0 : ℚ) < 2 ^ unit := by positivity
  have hbelow : ((scaled n d (-unit)).1 : ℚ) / (scaled n d (-unit)).2 < (2 ^ 53 : Nat) := by
    rw [scaled_neg_div, div_lt_iff₀ hpower]
    calc (n : ℚ) / d < 2 ^ (Int.log 2 ((n : ℚ) / d) + 1) := by
          exact_mod_cast Int.lt_zpow_succ_log_self (b := 2) (by decide) ((n : ℚ) / d)
      _ ≤ 2 ^ ((53 : Nat) + unit) := zpow_le_zpow_right₀ one_le_two (by omega)
      _ = (2 ^ 53 : Nat) * 2 ^ unit := by rw [two_zpow_add, Nat.cast_pow, Nat.cast_ofNat]
  have habove : unit = leastExponent ∨
      ((2 ^ 52 : Nat) : ℚ) ≤ (scaled n d (-unit)).1 / (scaled n d (-unit)).2 := by
    rcases max_choice (Int.log 2 ((n : ℚ) / d) - 52) leastExponent with hmax | hmax
    · refine Or.inr ?_
      rw [scaled_neg_div, le_div_iff₀ hpower]
      calc ((2 ^ 52 : Nat) : ℚ) * 2 ^ unit = 2 ^ ((52 : Nat) + unit) := by
            rw [two_zpow_add, Nat.cast_pow, Nat.cast_ofNat]
        _ = 2 ^ Int.log 2 ((n : ℚ) / d) := by
            congr 1
            omega
        _ ≤ n / d := by exact_mod_cast Int.zpow_log_le_self (b := 2) (by decide) hq
    · exact Or.inl (hunit.symm.trans hmax)
  have hle := (@roundQuotient_bounds _ _ 0 _ (scaled_pos hd _)
    (by rw [scaled_neg_div, Nat.cast_zero]; positivity) hbelow).2
  have hge : unit = leastExponent ∨
      2 ^ 52 ≤ roundQuotient (scaled n d (-unit)).1 (scaled n d (-unit)).2 :=
    habove.imp_right fun hlow ↦ (roundQuotient_bounds (scaled_pos hd _) hlow hbelow).1
  rw [ofRatio_eq hn hd hunit]
  dsimp only
  split
  · exact ⟨_, _, rfl, fun hgreatest ↦ ⟨by decide, by omega, hgreatest, Or.inl (le_refl _)⟩⟩
  · rename_i hne
    exact ⟨_, _, rfl, fun hgreatest ↦
      ⟨lt_of_le_of_ne hle hne, hleast, hgreatest, hge.symm⟩⟩

end OfRatio

/-! ### The fractions that are rounded to a number -/

/-- How far below a number the fractions begin that are rounded to it, in units of its exponent. -/
def unitsBelow (significand : Nat) (exponent : Int) : ℚ :=
  if significand = 2 ^ 52 ∧ leastExponent < exponent then 1 / 4 else 1 / 2

/-- Whether a fraction lies in the interval around a number whose members are rounded to it. The
ends belong to it if the significand is even. -/
structure RoundsTo (q : ℚ) (significand : Nat) (exponent : Int) : Prop where
  low_le : (significand - unitsBelow significand exponent) * 2 ^ exponent ≤ q
  le_high : q ≤ (significand + 1 / 2) * 2 ^ exponent
  even_of_end : q = (significand - unitsBelow significand exponent) * 2 ^ exponent ∨
    q = (significand + 1 / 2) * 2 ^ exponent → significand % 2 = 0

section Rounding

variable {n d : Nat} (hn : 0 < n) (hd : 0 < d) {e : Int}
include hn hd

/-- A fraction that reaches the least number with an exponent is rounded in units of it. -/
theorem ofRatio_eq_of_le {m : Nat} (hm : IsCanonical m e)
    (hwide : e = leastExponent ∨ (2 : ℚ) ^ ((52 : Nat) + e) ≤ n / d)
    (hlow : ((m : ℚ) - 1 / 2) * 2 ^ e ≤ n / d) (hhigh : (n : ℚ) / d ≤ (m + 1 / 2) * 2 ^ e)
    (heven : (n : ℚ) / d = (m - 1 / 2) * 2 ^ e ∨ (n : ℚ) / d = (m + 1 / 2) * 2 ^ e → m % 2 = 0)
    (negative : Bool) : ofRatio negative n d = .finite negative m e hm := by
  have hq : (0 : ℚ) < n / d := div_pos (by exact_mod_cast hn) (by exact_mod_cast hd)
  have hpower : (0 : ℚ) < 2 ^ e := by positivity
  have hbelow : (n : ℚ) / d < 2 ^ ((53 : Nat) + e) := by
    have hle : (m : ℚ) + 1 ≤ 2 ^ 53 := by exact_mod_cast hm.lt
    rw [two_zpow_add]
    exact lt_of_le_of_lt hhigh (mul_lt_mul_of_pos_right (by linarith) hpower)
  have hlt : Int.log 2 ((n : ℚ) / d) < 53 + e :=
    (Int.lt_zpow_iff_log_lt (b := 2) (by decide) hq).mp (by exact_mod_cast hbelow)
  have hunit : max (Int.log 2 ((n : ℚ) / d) - 52) leastExponent = e := by
    have hleast := hm.least_le
    rcases hwide with rfl | hwide
    · omega
    · have hge : 52 + e ≤ Int.log 2 ((n : ℚ) / d) :=
        (Int.zpow_le_iff_le_log (b := 2) (by decide) hq).mp (by exact_mod_cast hwide)
      omega
  have hne : m ≠ 2 ^ 53 := hm.lt.ne
  rw [ofRatio_eq hn hd hunit, roundQuotient_scaled hd hlow hhigh heven]
  dsimp only
  rw [if_neg hne, ofParts_eq hm]

/-- Below the least number with an exponent the units are half as large, and what is at most half of
such a unit away from it is rounded up. -/
theorem ofRatio_eq_of_lt (hm : IsCanonical (2 ^ 52) e) (hleast : leastExponent < e)
    (hlow : ((2 : ℚ) ^ 52 - 1 / 4) * 2 ^ e ≤ n / d) (hbelow : (n : ℚ) / d < 2 ^ 52 * 2 ^ e)
    (negative : Bool) : ofRatio negative n d = .finite negative (2 ^ 52) e hm := by
  have hq : (0 : ℚ) < n / d := div_pos (by exact_mod_cast hn) (by exact_mod_cast hd)
  have hpower : (0 : ℚ) < 2 ^ e := by positivity
  have hge : 51 + e ≤ Int.log 2 ((n : ℚ) / d) := by
    refine (Int.zpow_le_iff_le_log (b := 2) (by decide) hq).mp ?_
    calc ((2 : Nat) : ℚ) ^ (51 + e) = 2 ^ 51 * 2 ^ e := two_zpow_add 51 e
      _ ≤ (2 ^ 52 - 1 / 4) * 2 ^ e := mul_le_mul_of_nonneg_right (by norm_num) hpower.le
      _ ≤ n / d := hlow
  have hlt : Int.log 2 ((n : ℚ) / d) < 52 + e :=
    (Int.lt_zpow_iff_log_lt (b := 2) (by decide) hq).mp
      (hbelow.trans_eq (two_zpow_add 52 e).symm)
  have hunit : max (Int.log 2 ((n : ℚ) / d) - 52) leastExponent = e - 1 := by omega
  have hround : roundQuotient (scaled n d (-(e - 1))).1 (scaled n d (-(e - 1))).2 = 2 ^ 53 := by
    have hdouble : (2 : ℚ) ^ e = 2 * 2 ^ (e - 1) := by
      rw [← zpow_one_add₀ two_ne_zero, add_sub_cancel]
    have hhalf : (0 : ℚ) < 2 ^ (e - 1) := by positivity
    rw [hdouble] at hlow hbelow
    refine roundQuotient_scaled hd ?_ ?_ fun _ ↦ rfl
    · push_cast
      linarith
    · push_cast
      linarith
  rw [ofRatio_eq hn hd hunit, hround]
  dsimp only
  rw [if_pos rfl, sub_add_cancel, ofParts_eq hm]

end Rounding

/-- The fractions that are rounded to a number begin half a unit below it, or a quarter at a power
of two. -/
theorem unitsBelow_cases (m : Nat) (e : Int) :
    unitsBelow m e = 1 / 2 ∨ m = 2 ^ 52 ∧ unitsBelow m e = 1 / 4 := by
  unfold unitsBelow
  split
  · rename_i hnarrow
    exact Or.inr ⟨hnarrow.1, rfl⟩
  · exact Or.inl rfl

/-- What is rounded to a number is at most half a unit below it. -/
theorem RoundsTo.half_le {q : ℚ} {m : Nat} {e : Int} (h : RoundsTo q m e) :
    ((m : ℚ) - 1 / 2) * 2 ^ e ≤ q := by
  refine le_trans (mul_le_mul_of_nonneg_right ?_ (by positivity)) h.low_le
  rcases unitsBelow_cases m e with hunits | ⟨-, hunits⟩
  · rw [hunits]
  · rw [hunits]
    linarith

/-- Every fraction in the interval around a number is rounded to it. Below the least number with the
exponent, it is rounded to that one. -/
theorem ofRatio_eq_of_roundsTo {n d m : Nat} {e : Int} (hm : IsCanonical m e) (hpos : 0 < m)
    (hd : 0 < d) (h : RoundsTo ((n : ℚ) / d) m e) (negative : Bool) :
    ofRatio negative n d = .finite negative m e hm := by
  have hone : (1 : ℚ) ≤ m := by exact_mod_cast hpos
  have hpower : (0 : ℚ) < 2 ^ e := by positivity
  have hn : 0 < n := by
    refine Nat.pos_of_ne_zero ?_
    rintro rfl
    have hhalf := h.half_le
    rw [Nat.cast_zero, zero_div] at hhalf
    exact absurd (mul_pos (by linarith) hpower) (not_lt.mpr hhalf)
  by_cases hwide : e = leastExponent ∨ (2 : ℚ) ^ ((52 : Nat) + e) ≤ n / d
  · refine ofRatio_eq_of_le hn hd hm hwide h.half_le h.le_high (fun hend ↦ ?_) negative
    rcases unitsBelow_cases m e with hunits | ⟨rfl, -⟩
    · exact h.even_of_end (hunits ▸ hend)
    · rfl
  · obtain ⟨hleast, hbelow⟩ := not_or.mp hwide
    rw [not_le, two_zpow_add] at hbelow
    have hgreater : leastExponent < e := lt_of_le_of_ne hm.least_le (Ne.symm hleast)
    obtain rfl : m = 2 ^ 52 := by
      refine Nat.le_antisymm ?_ (hm.normal.resolve_right hleast)
      by_contra hlt
      have hge : (2 : ℚ) ^ 52 + 1 ≤ m := by exact_mod_cast not_le.mp hlt
      exact absurd (lt_of_le_of_lt h.half_le hbelow)
        (not_lt.mpr (mul_le_mul_of_nonneg_right (by linarith) hpower.le))
    have hlow := h.low_le
    rw [unitsBelow, if_pos ⟨rfl, hgreater⟩] at hlow
    exact ofRatio_eq_of_lt hn hd hm hgreater (by exact_mod_cast hlow) hbelow negative

end PromptTemplate.Binary64
