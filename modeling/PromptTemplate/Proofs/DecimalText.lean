import PromptTemplate.Number.Integer
import PromptTemplate.Text.Blank

/-!
Integers written in decimal digits. What `Integer.text` writes is a sign at most and digits
(`Integer.isDigit_or_eq_of_mem_text`), so no blank is trimmed off it, and `Integer.signed64?` reads
it back when it is the value of a signed 64-bit word (`Integer.signed64?_text_toInt`).
-/

set_option autoImplicit false
set_option relaxedAutoImplicit false

namespace PromptTemplate

/-- Nothing is trimmed off a text without blanks. -/
theorem Text.trim_eq_self {t : Text} (h : ∀ c ∈ t, isBlank c = false) : trim t = t := by
  have hdrop : ∀ s : Text, (∀ c ∈ s, isBlank c = false) → s.dropWhile isBlank = s := by
    intro s hs
    cases s with
    | nil => rfl
    | cons c s => rw [List.dropWhile_cons, hs c List.mem_cons_self, if_neg Bool.false_ne_true]
  unfold trim trimLeft trimRight
  rw [hdrop t h, hdrop t.reverse, List.reverse_reverse]
  exact fun c hc ↦ h c (List.mem_reverse.mp hc)

namespace Natural

theorem isDigit_of_mem_text {n : Nat} {c : Char} (hc : c ∈ text n) : c.isDigit = true :=
  Nat.isDigit_of_mem_toDigits (by decide) (by decide) hc

theorem ofDigits?_text (n : Nat) : ofDigits? (text n) = some n := by
  have hdigits : (text n).all Char.isDigit = true :=
    List.all_eq_true.mpr fun c hc ↦ isDigit_of_mem_text hc
  have hempty : (text n).isEmpty = false := by
    rw [← Bool.not_eq_true, List.isEmpty_iff]
    exact Nat.toDigits_ne_nil
  rw [ofDigits?, hempty, hdigits, if_neg Bool.false_ne_true, if_pos rfl, text,
    Nat.ofDigitChars_ten_toDigits]

end Natural

namespace Integer

/-- An integer is written with digits and a sign. -/
theorem isDigit_or_eq_of_mem_text {n : Int} {c : Char} (hc : c ∈ text n) :
    c.isDigit = true ∨ c = '-' := by
  cases n with
  | ofNat n => exact Or.inl (Natural.isDigit_of_mem_text hc)
  | negSucc n =>
    rcases List.mem_cons.mp hc with rfl | hc
    · exact Or.inr rfl
    · exact Or.inl (Natural.isDigit_of_mem_text hc)

/-- A text that begins with a digit has no sign. -/
theorem splitSign_natural_text (n : Nat) :
    splitSign (Natural.text n) = (false, Natural.text n) := by
  unfold splitSign
  split
  · rename_i t ht
    have hdigit : '-'.isDigit = true := Natural.isDigit_of_mem_text (ht ▸ List.mem_cons_self)
    exact absurd hdigit (by decide)
  · rename_i t ht
    have hdigit : '+'.isDigit = true := Natural.isDigit_of_mem_text (ht ▸ List.mem_cons_self)
    exact absurd hdigit (by decide)
  · rfl

/-- The text of an integer is read as the integer. -/
theorem ofText?_text (n : Int) : ofText? (text n) = some n := by
  cases n with
  | ofNat n =>
    simp only [ofText?, text, splitSign_natural_text, Natural.ofDigits?_text]
    rfl
  | negSucc n =>
    simp only [ofText?, text, splitSign, Natural.ofDigits?_text]
    rfl

/-- A signed 64-bit word is read back from its decimal digits. -/
theorem signed64?_text_toInt (n : Int64) : signed64? (text n.toInt) = some n.toInt := by
  have hfits : FitsSigned 63 n.toInt := ⟨n.le_toInt, n.toInt_lt⟩
  rw [signed64?, ofText?_text, Option.filter_some, if_pos (decide_eq_true hfits)]

/-- The characters of a decimal integer are neither blank nor a mark of the grammar. -/
theorem plain_of_mem_text {n : Int} {c : Char} (hc : c ∈ text n) :
    Text.isBlank c = false ∧ c ∉ [':', '{', '}'] := by
  rcases isDigit_or_eq_of_mem_text hc with hdigit | rfl
  · have hrange : 48 ≤ c.toNat ∧ c.toNat ≤ 57 := by
      simpa [Char.isDigit, UInt32.le_iff_toNat_le] using hdigit
    refine ⟨?_, ?_⟩
    · simp only [Text.isBlank, Text.inRanges, Text.blankRanges, List.any_cons, List.any_nil,
        Bool.or_false, Bool.or_eq_false_iff, Bool.and_eq_false_iff, decide_eq_false_iff_not]
      omega
    · simp only [List.mem_cons, List.not_mem_nil, or_false, not_or]
      refine ⟨?_, ?_, ?_⟩ <;>
      · rintro rfl
        exact absurd hrange (by decide)
  · decide

theorem trim_text (n : Int) : Text.trim (text n) = text n :=
  Text.trim_eq_self fun _ hc ↦ (plain_of_mem_text hc).1

end Integer

end PromptTemplate
