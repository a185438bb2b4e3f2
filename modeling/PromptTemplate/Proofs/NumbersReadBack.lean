import PromptTemplate.Proofs.ShortestDigits
import PromptTemplate.Proofs.WrittenNumbers

/-!
Numbers that are written are read back. The digits that are written of a finite number lie in the
interval of the fractions that are rounded to it, and reading decimal digits rounds exactly what
they stand for (`ofDecimal_eq_of_roundsTo`), so every finite number is read from what is written for
it (`ofText?_writeNumber`), and so is every number in a document (`ofWord?_writeNumber`).
-/

set_option autoImplicit false
set_option relaxedAutoImplicit false

namespace PromptTemplate

namespace Binary64

variable {m : Nat} {e : Int}

/-- The fractions that are rounded to a number other than zero are within its range. -/
theorem RoundsTo.bounds (hm : IsCanonical m e) (hpos : 0 < m) {q : ℚ} (h : RoundsTo q m e) :
    (2 : ℚ) ^ (-1075 : Int) ≤ q ∧ q < 2 ^ (1024 : Int) := by
  have hone : (1 : ℚ) ≤ m := by exact_mod_cast hpos
  constructor
  · calc (2 : ℚ) ^ (-1075 : Int) = 1 / 2 * 2 ^ leastExponent := by
          have hsplit : (-1075 : Int) = leastExponent - 1 := rfl
          rw [hsplit, zpow_sub_one₀ two_ne_zero, mul_comm, inv_eq_one_div]
      _ ≤ (m - 1 / 2) * 2 ^ e :=
          mul_le_mul (by linarith) (zpow_le_zpow_right₀ one_le_two hm.least_le) (by positivity)
            (by linarith)
      _ ≤ q := h.half_le
  · have hlt : (m : ℚ) + 1 ≤ 2 ^ 53 := by exact_mod_cast hm.lt
    calc q ≤ (m + 1 / 2) * 2 ^ e := h.le_high
      _ < 2 ^ 53 * 2 ^ e := mul_lt_mul_of_pos_right (by linarith) (by positivity)
      _ ≤ 2 ^ 53 * 2 ^ greatestExponent :=
          mul_le_mul_of_nonneg_left (zpow_le_zpow_right₀ one_le_two hm.le_greatest) (by positivity)
      _ = 2 ^ (1024 : Int) := (two_zpow_add 53 greatestExponent).symm

theorem two_zpow_le_ten_zpow {k : Int} (hk : k ≤ 1200) : (2 : ℚ) ^ k ≤ 10 ^ (400 : Int) := by
  have hthree : (3 * 400 : Int) = 1200 := rfl
  calc (2 : ℚ) ^ k ≤ 2 ^ (3 * 400 : Int) := zpow_le_zpow_right₀ one_le_two (hthree ▸ hk)
    _ = (2 ^ (3 : Int)) ^ (400 : Int) := zpow_mul 2 3 400
    _ ≤ 10 ^ (400 : Int) := zpow_le_zpow_left₀ (by decide) (by positivity) (by norm_num)

/-- Digits whose value is within the range of numbers have a magnitude that is computed. -/
theorem magnitude_bounds {digits : Nat} {exponent : Int} (hdigits : 0 < digits)
    (hlow : (2 : ℚ) ^ (-1075 : Int) ≤ digits * 10 ^ exponent)
    (hhigh : (digits : ℚ) * 10 ^ exponent < 2 ^ (1024 : Int)) :
    ¬ 400 < ((Nat.toDigits 10 digits).length + exponent : Int) ∧
      ¬ ((Nat.toDigits 10 digits).length + exponent : Int) < -400 := by
  obtain ⟨hle, hlt⟩ := Shortest.length_text_bounds hdigits
  have hlength : 0 < (Nat.toDigits 10 digits).length := Nat.length_toDigits_pos
  have hpower : (0 : ℚ) < 10 ^ exponent := by positivity
  constructor
  · intro hlarge
    have hbound : (10 : ℚ) ^ (400 : Int) ≤ digits * 10 ^ exponent := by
      calc (10 : ℚ) ^ (400 : Int)
          ≤ 10 ^ (((Nat.toDigits 10 digits).length - 1 : Nat) + exponent : Int) :=
            zpow_le_zpow_right₀ (by norm_num) (by omega)
        _ = 10 ^ ((Nat.toDigits 10 digits).length - 1) * 10 ^ exponent := by
            rw [zpow_add₀ (by norm_num), zpow_natCast]
        _ ≤ digits * 10 ^ exponent :=
            mul_le_mul_of_nonneg_right (by exact_mod_cast hle) hpower.le
    exact absurd (hbound.trans_lt hhigh) (not_lt.mpr (two_zpow_le_ten_zpow (by decide)))
  · intro hsmall
    have hbound : (digits : ℚ) * 10 ^ exponent < 10 ^ (-400 : Int) := by
      calc (digits : ℚ) * 10 ^ exponent
          < 10 ^ (Nat.toDigits 10 digits).length * 10 ^ exponent :=
            mul_lt_mul_of_pos_right (by exact_mod_cast hlt) hpower
        _ = 10 ^ (((Nat.toDigits 10 digits).length : Nat) + exponent : Int) := by
            rw [zpow_add₀ (by norm_num), zpow_natCast]
        _ ≤ 10 ^ (-400 : Int) := zpow_le_zpow_right₀ (by norm_num) hsmall.le
    refine absurd (hlow.trans_lt hbound) (not_lt.mpr ?_)
    rw [zpow_neg, zpow_neg]
    exact inv_anti₀ (by positivity) (two_zpow_le_ten_zpow (by decide))

/-- Decimal digits are read as the number in whose interval they lie. -/
theorem ofDecimal_eq_of_roundsTo (hm : IsCanonical m e) (hpos : 0 < m) {digits : Nat}
    {exponent : Int} (h : RoundsTo (digits * 10 ^ exponent) m e) (negative : Bool) :
    ofDecimal negative digits exponent = .finite negative m e hm := by
  obtain ⟨hlow, hhigh⟩ := h.bounds hm hpos
  have hdigits : 0 < digits := by
    refine Nat.pos_of_ne_zero ?_
    rintro rfl
    rw [Nat.cast_zero, zero_mul] at hlow
    exact absurd hlow (not_le.mpr (by positivity))
  obtain ⟨hlarge, hsmall⟩ := magnitude_bounds hdigits hlow hhigh
  simp only [ofDecimal, if_neg hdigits.ne', gt_iff_lt, if_neg hlarge, if_neg hsmall]
  cases exponent with
  | ofNat n =>
    refine ofRatio_eq_of_roundsTo hm hpos Nat.one_pos ?_ negative
    rw [Nat.cast_one, div_one, Nat.cast_mul, Nat.pow_eq, Nat.cast_pow, Nat.cast_ofNat,
      ← zpow_natCast]
    exact h
  | negSucc n =>
    refine ofRatio_eq_of_roundsTo hm hpos (Nat.pow_pos (by decide)) ?_ negative
    rw [Nat.cast_pow, Nat.cast_ofNat, div_eq_mul_inv, ← zpow_negSucc]
    exact h

end Binary64

namespace Toml

/-- A finite number is read from what is written for it. -/
theorem ofText?_writeNumber {m : Nat} {e : Int} (hm : Binary64.IsCanonical m e)
    (negative : Bool) :
    Binary64.ofText? (writeNumber (.finite negative m e hm)) = some (.finite negative m e hm) := by
  obtain ⟨whole, fraction, hwhole, hfraction, -, hwritten, hvalue⟩ :=
    exists_writeNumber negative hm
  rw [hwritten, ofText?_signedReal hwhole hfraction, Decimal.toBinary64]
  have hpower : Decimal.power ⟨whole, fraction, false, []⟩ = 0 := rfl
  rw [hpower, zero_sub]
  rcases Nat.eq_zero_or_pos m with rfl | hpos
  · obtain rfl : e = Binary64.leastExponent :=
      hm.normal.resolve_left (Nat.not_le_of_lt (by decide))
    have hzero : Nat.ofDigitChars 10 (whole ++ fraction) 0 = 0 := by
      rw [Shortest.digits, if_pos rfl, Nat.cast_zero, zero_mul] at hvalue
      exact_mod_cast hvalue
    rw [hzero]
    rfl
  · have hrounds := Shortest.roundsTo_digits hm hpos
    have hdigits :
        (Nat.ofDigitChars 10 (whole ++ fraction) 0 : ℚ) * 10 ^ (-(fraction.length : Int)) =
          (Shortest.digits m e).1 * 10 ^ (Shortest.digits m e).2 := by
      rw [hvalue, mul_assoc, ← zpow_add₀ (by norm_num), add_neg_cancel_right]
    rw [← hdigits] at hrounds
    rw [Binary64.ofDecimal_eq_of_roundsTo hm hpos hrounds negative]

/-- Any number is read from what is written for it. -/
theorem ofWord?_writeNumber (x : Binary64) :
    ofWord? (writeNumber x) = some (.real x.forgetNaNSign) := by
  cases x with
  | nan negative => rfl
  | infinity negative => cases negative <;> rfl
  | finite negative significand exponent canonical =>
    obtain ⟨whole, fraction, hwhole, hfraction, hne, hwritten, -⟩ :=
      exists_writeNumber negative canonical
    have hread := ofText?_writeNumber canonical negative
    rw [hwritten, ofText?_signedReal hwhole hfraction] at hread
    rw [hwritten, ofWord?_signedReal hwhole hfraction hne, Option.some.inj hread]
    rfl

end Toml

end PromptTemplate
