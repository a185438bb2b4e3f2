import Mathlib.Algebra.Field.Rat
import Mathlib.Algebra.GroupWithZero.Basic
import Mathlib.Data.List.TakeWhile
import Mathlib.Tactic.NormNum
import PromptTemplate.Toml.Writer
import PromptTemplate.Toml.Word
import PromptTemplate.Proofs.DecimalText
import PromptTemplate.Proofs.NaNSigns
import PromptTemplate.Proofs.TextCuts

/-!
Numbers that are written in TOML are read as numbers again. A finite number is written with the
digits of a whole part, in which no zero stands in front of other digits, a point and the digits of
a fraction (`exists_writeNumber`), which have the value of its shortest digits, so it is taken
neither for an integer nor for a moment. What the word is read as is what its decimal text is read
as (`ofWord?_signedReal`).
-/

set_option autoImplicit false
set_option relaxedAutoImplicit false

namespace PromptTemplate

/-! ### Digits -/

/-- Only digits. -/
def Text.IsDigits (t : Text) : Prop := ∀ c ∈ t, c.isDigit = true

/-- The digits of a whole number, without a zero in front of others. -/
structure Text.IsWhole (t : Text) : Prop where
  isDigits : t.IsDigits
  ne_nil : t ≠ []
  canonical : t.length = 1 ∨ t.head? ≠ some '0'

theorem Text.IsDigits.not_mem {t : Text} (h : t.IsDigits) {c : Char} (hc : c.isDigit = false) :
    c ∉ t := fun hmem ↦ absurd (h c hmem) (by rw [hc]; exact Bool.false_ne_true)

/-- Whatever takes digits takes all of them. -/
theorem Text.IsDigits.takeWhile_eq_self {t : Text} (h : t.IsDigits) {p : Char → Bool}
    (hp : ∀ c, c.isDigit = true → p c = true) : t.takeWhile p = t :=
  List.takeWhile_eq_self_iff.mpr fun c hc ↦ hp c (h c hc)

/-- Digits around a point hold no other mark. -/
theorem Text.not_mem_point {whole fraction : Text} (hwhole : whole.IsDigits)
    (hfraction : fraction.IsDigits) {c : Char} (hc : c.isDigit = false) (hpoint : c ≠ '.') :
    c ∉ whole ++ '.' :: fraction := by
  rw [List.mem_append, List.mem_cons, not_or, not_or]
  exact ⟨hwhole.not_mem hc, hpoint, hfraction.not_mem hc⟩

namespace Natural

theorem isDigits_text (n : Nat) : (text n).IsDigits := fun _ hc ↦ isDigit_of_mem_text hc

theorem text_ne_nil (n : Nat) : text n ≠ [] := Nat.toDigits_ne_nil

theorem head?_text_ne_zero {n : Nat} (hn : 0 < n) : (text n).head? ≠ some '0' := by
  induction n using Nat.strongRecOn with
  | ind n ih =>
    rcases Nat.lt_or_ge n 10 with hlt | hge
    · have hdigits : ∀ n, n < 10 → 0 < n → (text n).head? ≠ some '0' := by decide
      exact hdigits n hlt hn
    · have hfront := ih (n / 10) (by omega) (by omega)
      obtain ⟨c, t, hcons⟩ := List.exists_cons_of_ne_nil (text_ne_nil (n / 10))
      rw [hcons] at hfront
      rw [text, Nat.toDigits_of_base_le (by decide) hge, ← text, hcons]
      exact hfront

theorem isWhole_text (n : Nat) : (text n).IsWhole where
  isDigits := isDigits_text n
  ne_nil := text_ne_nil n
  canonical := by
    rcases Nat.eq_zero_or_pos n with rfl | hn
    · exact .inl rfl
    · exact .inr (head?_text_ne_zero hn)

/-- Zeros behind digits multiply their value by ten each. -/
theorem ofDigitChars_replicate (k n : Nat) :
    Nat.ofDigitChars 10 (List.replicate k '0') n = n * 10 ^ k := by
  induction k generalizing n with
  | zero => exact (Nat.mul_one n).symm
  | succ k ih =>
    have hzero : 10 * n + ('0'.toNat - '0'.toNat) = n * 10 := Nat.mul_comm 10 n
    rw [List.replicate_succ, Nat.ofDigitChars_cons, hzero, ih, pow_succ, Nat.mul_assoc,
      Nat.mul_comm 10]

end Natural

namespace Shortest

/-- The digits in front of a fraction of some size, which zeros were put in front of. -/
theorem isWhole_take {digits size : Nat} (hsize : 0 < size) {padded : Text}
    (hpadded : padded = List.replicate (size + 1 - (Natural.text digits).length) '0' ++
      Natural.text digits) : Text.IsWhole (padded.take (padded.length - size)) := by
  rcases Nat.lt_or_ge size (Natural.text digits).length with hlt | hle
  · have hplain : padded = Natural.text digits := by
      rw [hpadded, Nat.sub_eq_zero_of_le hlt, List.replicate_zero, List.nil_append]
    have hdigits : 0 < digits := by
      refine Nat.pos_of_ne_zero ?_
      rintro rfl
      exact absurd hlt (by simp [Natural.text]; omega)
    obtain ⟨n, hn⟩ : ∃ n, padded.length - size = n + 1 :=
      ⟨padded.length - size - 1, by rw [hplain]; omega⟩
    obtain ⟨c, t, hcons⟩ := List.exists_cons_of_ne_nil (Natural.text_ne_nil digits)
    refine ⟨fun d hd ↦ ?_, ?_, .inr ?_⟩
    · rw [hplain] at hd
      exact Natural.isDigits_text digits d (List.mem_of_mem_take hd)
    · rw [hn, hplain, hcons]
      exact List.cons_ne_nil _ _
    · have hhead := Natural.head?_text_ne_zero hdigits
      rw [hcons] at hhead
      rw [hn, hplain, hcons]
      exact hhead
  · obtain ⟨n, hn⟩ : ∃ n, size + 1 - (Natural.text digits).length = n + 1 :=
      ⟨size - (Natural.text digits).length, by omega⟩
    have hlength : padded.length - size = 1 := by
      rw [hpadded, List.length_append, List.length_replicate]
      omega
    rw [hlength, hpadded, hn]
    exact Natural.isWhole_text 0

/-- Digits without the zeros behind them. -/
theorem exists_replicate (t : Text) :
    ∃ k, t = (t.reverse.dropWhile (· == '0')).reverse ++ List.replicate k '0' := by
  have hzeros : (t.reverse.takeWhile (· == '0')).reverse =
      List.replicate (t.reverse.takeWhile (· == '0')).reverse.length '0' := by
    refine List.eq_replicate_of_mem fun c hc ↦ ?_
    have hzero := List.mem_takeWhile_imp (List.mem_reverse.mp hc)
    exact beq_iff_eq.mp hzero
  refine ⟨(t.reverse.takeWhile (· == '0')).reverse.length, ?_⟩
  rw [← hzeros, ← List.reverse_append, List.takeWhile_append_dropWhile, List.reverse_reverse]

/-- A number in positional digits is a whole part with an optional fraction. -/
theorem exists_positional (digits : Nat) (place : Int) : ∃ whole fraction : Text,
    whole.IsWhole ∧ fraction.IsDigits ∧
      positional digits place =
        (if fraction.isEmpty then whole else whole ++ '.' :: fraction) ∧
      (Nat.ofDigitChars 10 (whole ++ fraction) 0 : ℚ) =
        digits * 10 ^ (place + fraction.length) := by
  cases place with
  | ofNat n =>
    refine ⟨_, [], Natural.isWhole_text _, fun _ h ↦ absurd h List.not_mem_nil, rfl, ?_⟩
    rw [List.append_nil, Natural.text, Nat.ofDigitChars_ten_toDigits]
    simp
  | negSucc n =>
    generalize hpadded : List.replicate (n + 1 + 1 - (Natural.text digits).length) '0' ++
      Natural.text digits = padded
    obtain ⟨fraction, hfraction⟩ : ∃ fraction, fraction =
        ((padded.drop (padded.length - (n + 1))).reverse.dropWhile (· == '0')).reverse := ⟨_, rfl⟩
    obtain ⟨k, hk⟩ := exists_replicate (padded.drop (padded.length - (n + 1)))
    rw [← hfraction] at hk
    have hdigits : ∀ c ∈ padded, c.isDigit = true := by
      intro c hc
      rw [← hpadded] at hc
      rcases List.mem_append.mp hc with hzero | hwritten
      · rw [List.eq_of_mem_replicate hzero]
        rfl
      · exact Natural.isDigits_text digits c hwritten
    have hvalue : Nat.ofDigitChars 10
        (padded.take (padded.length - (n + 1)) ++ fraction) 0 * 10 ^ k = digits := by
      rw [← Natural.ofDigitChars_replicate, ← Nat.ofDigitChars_append, List.append_assoc, ← hk,
        List.take_append_drop, ← hpadded, Nat.ofDigitChars_append, Natural.ofDigitChars_replicate,
        Nat.zero_mul, Natural.text, Nat.ofDigitChars_ten_toDigits]
    have hlength : fraction.length + k = n + 1 := by
      have hdrop := congrArg List.length hk
      have hpaddedLength := congrArg List.length hpadded
      rw [List.length_drop, List.length_append, List.length_replicate] at hdrop
      rw [List.length_append, List.length_replicate] at hpaddedLength
      omega
    refine ⟨_, fraction, isWhole_take (Nat.succ_pos n) hpadded.symm, fun c hc ↦ ?_, ?_, ?_⟩
    · exact hdigits c (List.mem_of_mem_drop (hk ▸ List.mem_append_left _ hc))
    · rw [hfraction, ← hpadded]
      rfl
    · have hplace : Int.negSucc n + fraction.length = -(k : Int) := by omega
      rw [hplace, zpow_neg, zpow_natCast, ← hvalue, Nat.cast_mul, Nat.cast_pow, Nat.cast_ofNat,
        mul_inv_cancel_right₀ (pow_ne_zero k (by norm_num))]

end Shortest

namespace Toml

/-- A sign and digits around a point. -/
def signedReal (negative : Bool) (whole fraction : Text) : Text :=
  (if negative then ['-'] else []) ++ (whole ++ '.' :: fraction)

/-- A finite number is written with a sign, a whole part, a point and a fraction, which have the
value of its shortest digits. -/
theorem exists_writeNumber (negative : Bool) {significand : Nat} {exponent : Int}
    (canonical : Binary64.IsCanonical significand exponent) :
    ∃ whole fraction : Text, whole.IsWhole ∧ fraction.IsDigits ∧ fraction ≠ [] ∧
      writeNumber (.finite negative significand exponent canonical) =
        signedReal negative whole fraction ∧
      (Nat.ofDigitChars 10 (whole ++ fraction) 0 : ℚ) =
        (Shortest.digits significand exponent).1 *
          10 ^ ((Shortest.digits significand exponent).2 + fraction.length) := by
  obtain ⟨whole, fraction, hwhole, hfraction, hsize, hvalue⟩ := Shortest.exists_positional
    (Shortest.digits significand exponent).1 (Shortest.digits significand exponent).2
  have hsize : Binary64.sizeText significand exponent =
      if fraction.isEmpty then whole else whole ++ '.' :: fraction := hsize
  have hpoint : '.' ∉ whole := hwhole.isDigits.not_mem (by decide)
  cases fraction with
  | nil =>
    rw [List.isEmpty_nil, if_pos rfl] at hsize
    refine ⟨whole, ['0'], hwhole, Natural.isDigits_text 0, List.cons_ne_nil _ _, ?_, ?_⟩
    · rw [writeNumber, hsize, signedReal]
      simp [hpoint]
    · rw [List.append_nil, List.length_nil, Nat.cast_zero, add_zero] at hvalue
      have htail := Natural.ofDigitChars_replicate 1 (Nat.ofDigitChars 10 whole 0)
      rw [Nat.ofDigitChars_append]
      refine (congrArg (Nat.cast (R := ℚ)) htail).trans ?_
      rw [pow_one, Nat.cast_mul, hvalue, List.length_singleton, Nat.cast_one,
        zpow_add_one₀ (by norm_num), Nat.cast_ofNat, mul_assoc]
  | cons c fraction =>
    rw [List.isEmpty_cons, if_neg Bool.false_ne_true] at hsize
    refine ⟨whole, c :: fraction, hwhole, hfraction, List.cons_ne_nil _ _, ?_, hvalue⟩
    rw [writeNumber, hsize, signedReal]
    simp

/-! ### Reading -/

theorem joinDigits?_eq_some {t : Text} (h : t.IsDigits) (hne : t ≠ []) :
    joinDigits? Char.isDigit t = some t := by
  have hjoined : '_' ∉ t := h.not_mem (by decide)
  have hall : t.all Char.isDigit = true := List.all_eq_true.mpr h
  have hempty : t.isEmpty = false := Bool.eq_false_iff.mpr fun h ↦ hne (List.isEmpty_iff.mp h)
  simp only [joinDigits?, List.splitOn_eq_singleton hjoined, List.all_cons, List.all_nil, hempty,
    hall, List.flatten_cons, List.flatten_nil, List.append_nil, Bool.not_false, Bool.and_true,
    ↓reduceIte]

theorem decimalDigits?_whole {whole : Text} (h : whole.IsWhole) :
    decimalDigits? whole = some whole := by
  have hcanonical : (whole.length == 1 || whole.head? != some '0') = true := by
    simpa using h.canonical
  rw [decimalDigits?, joinDigits?_eq_some h.isDigits h.ne_nil, Option.filter_some,
    if_pos hcanonical]

/-- What has a point is no integer. -/
theorem decimalDigits?_point {whole fraction : Text} (hwhole : whole.IsDigits)
    (hfraction : fraction.IsDigits) : decimalDigits? (whole ++ '.' :: fraction) = none := by
  have hjoined : '_' ∉ whole ++ '.' :: fraction :=
    Text.not_mem_point hwhole hfraction (by decide) (by decide)
  rw [decimalDigits?, joinDigits?, List.splitOn_eq_singleton hjoined]
  simp

/-- A whole part, a point and a fraction are a number, if it is not beyond all numbers. -/
theorem real?_point (negative : Bool) {whole fraction : Text} (hwhole : whole.IsWhole)
    (hfraction : fraction.IsDigits) (hne : fraction ≠ []) :
    real? negative (whole ++ '.' :: fraction) =
      let x := Decimal.toBinary64 ⟨whole, fraction, false, []⟩ negative
      if x.isFinite then some (.real x) else none := by
  have hdigit : ∀ c : Char, c.isDigit = true → (c.isDigit || c == '_') = true :=
    fun c hc ↦ by rw [hc, Bool.true_or]
  have htake : (whole ++ '.' :: fraction).takeWhile (fun c ↦ c.isDigit || c == '_') = whole :=
    (Text.takeWhile_dropWhile_append (fun c hc ↦ hdigit c (hwhole.isDigits c hc)) (by decide) _).1
  have htakeFraction : fraction.takeWhile (fun c ↦ c.isDigit || c == '_') = fraction :=
    hfraction.takeWhile_eq_self hdigit
  simp only [real?, htake, List.drop_left, decimalDigits?_whole hwhole, htakeFraction,
    joinDigits?_eq_some hfraction hne, List.drop_length]
  rfl

theorem readMark?_eq_none {mark : Char} {t : Text} (h : mark ∉ t) : readMark? mark t = none := by
  cases t with
  | nil => rfl
  | cons c t =>
    have hne : c ≠ mark := fun heq ↦ h (heq ▸ List.mem_cons_self)
    rw [readMark?, if_neg hne]

/-- A text without the marks of dates and times is no moment. A sign may stand in front of it. -/
theorem Moment.ofText?_eq_none {t : Text} (hdash : '-' ∉ t.tail) (hcolon : ':' ∉ t) :
    Moment.ofText? t = none := by
  have hdate : Date.read? t = none := by
    rw [Date.read?.eq_def]
    split
    · rename_i a b c d t
      have hmark : readMark? '-' t = none :=
        readMark?_eq_none fun hmem ↦ hdash (by simp [hmem])
      simp only [hmark, Option.bind_eq_bind, Option.bind_none, Option.bind_fun_none]
    · rfl
  have htime : Time.read? t = none := by
    rw [Time.read?, readTwo?.eq_def]
    split
    · rename_i a b t
      have hmark : readMark? ':' t = none :=
        readMark?_eq_none fun hmem ↦ hcolon (by simp [hmem])
      cases hnumber : Natural.ofDigits? [a, b] with
      | none => rfl
      | some n =>
        simp only [Option.bind_eq_bind, Option.bind_some]
        split
        · simp only [hmark, Option.bind_some, Option.bind_none]
        · rfl
    · rfl
  simp only [Moment.ofText?, hdate, htime]

/-! ### Reading the whole word -/

section

variable {negative : Bool} {whole fraction : Text}

/-- A number with a fraction has digits, a point and a sign in it. -/
theorem mem_signedReal {c : Char} (hwhole : whole.IsWhole) (hfraction : fraction.IsDigits)
    (hc : c ∈ signedReal negative whole fraction) : c.isDigit = true ∨ c = '.' ∨ c = '-' := by
  rcases List.mem_append.mp hc with hsign | hsize
  · cases negative with
    | false => exact absurd hsign List.not_mem_nil
    | true => exact .inr (.inr (List.mem_singleton.mp hsign))
  · rcases List.mem_append.mp hsize with hmem | hmem
    · exact .inl (hwhole.isDigits c hmem)
    · rcases List.mem_cons.mp hmem with rfl | hmem
      · exact .inr (.inl rfl)
      · exact .inl (hfraction c hmem)

/-- The sign of a number with a fraction is split off. -/
theorem splitSign_signedReal (hwhole : whole.IsWhole) :
    Integer.splitSign (signedReal negative whole fraction) =
      (negative, whole ++ '.' :: fraction) := by
  cases negative with
  | true => rfl
  | false =>
    obtain ⟨c, t, rfl⟩ := List.exists_cons_of_ne_nil hwhole.ne_nil
    have hc : c.isDigit = true := hwhole.isDigits c List.mem_cons_self
    change Integer.splitSign (c :: (t ++ '.' :: fraction)) = _
    unfold Integer.splitSign
    split
    · rename_i heq
      exact absurd ((List.cons.inj heq).1 ▸ hc) (by decide)
    · rename_i heq
      exact absurd ((List.cons.inj heq).1 ▸ hc) (by decide)
    · rfl

/-- A whole part, a point and a fraction are decimal text. -/
theorem ofText?_point (hwhole : whole.IsWhole) (hfraction : fraction.IsDigits) :
    Decimal.ofText? (whole ++ '.' :: fraction) = some ⟨whole, fraction, false, []⟩ := by
  have hspan : Decimal.spanDigits (whole ++ '.' :: fraction) = (whole, '.' :: fraction) := by
    obtain ⟨htake, hdrop⟩ := Text.takeWhile_dropWhile_append hwhole.isDigits
      (by decide : Char.isDigit '.' = false) fraction
    rw [Decimal.spanDigits, htake, hdrop]
  have hspanFraction : Decimal.spanDigits fraction = (fraction, []) := by
    rw [Decimal.spanDigits, hfraction.takeWhile_eq_self fun _ hc ↦ hc,
      List.dropWhile_eq_nil_iff.mpr hfraction]
  have hempty : whole.isEmpty = false :=
    Bool.eq_false_iff.mpr fun h ↦ hwhole.ne_nil (List.isEmpty_iff.mp h)
  simp only [Decimal.ofText?, hspan, hspanFraction, hempty, Bool.false_and, Bool.false_eq_true,
    ↓reduceIte]

/-- The decimal text of a number is the number nearest to its digits. -/
theorem ofText?_signedReal (hwhole : whole.IsWhole) (hfraction : fraction.IsDigits) :
    Binary64.ofText? (signedReal negative whole fraction) =
      some (Decimal.toBinary64 ⟨whole, fraction, false, []⟩ negative) := by
  have hpoint : '.' ∈ (whole ++ '.' :: fraction).map Char.toLower :=
    List.mem_map.mpr ⟨'.', by simp, rfl⟩
  have hword : ∀ word : Text, '.' ∉ word → (whole ++ '.' :: fraction).map Char.toLower ≠ word :=
    fun word hword heq ↦ hword (heq ▸ hpoint)
  simp only [Binary64.ofText?, splitSign_signedReal hwhole, hword "inf".toList (by decide),
    hword "infinity".toList (by decide), hword "nan".toList (by decide), or_self, ↓reduceIte,
    ofText?_point hwhole hfraction, Option.map_some]

/-- A number with a fraction is read as the number nearest to its digits, unless it is beyond all
numbers. -/
theorem ofWord?_signedReal (hwhole : whole.IsWhole) (hfraction : fraction.IsDigits)
    (hne : fraction ≠ []) :
    ofWord? (signedReal negative whole fraction) =
      let x := Decimal.toBinary64 ⟨whole, fraction, false, []⟩ negative
      if x.isFinite then some (.real x) else none := by
  have habsent : ∀ c : Char, c.isDigit = false → c ≠ '.' → c ≠ '-' →
      c ∉ signedReal negative whole fraction := by
    intro c hdigit hpoint hdash hmem
    rcases mem_signedReal hwhole hfraction hmem with h | h | h
    · rw [hdigit] at h
      cases h
    · exact hpoint h
    · exact hdash h
  have hword : ∀ c : Char, c.isDigit = false → c ≠ '.' → c ≠ '-' → ∀ word : Text, c ∈ word →
      signedReal negative whole fraction ≠ word :=
    fun c hdigit hpoint hdash word hmem heq ↦ habsent c hdigit hpoint hdash (heq ▸ hmem)
  have hmoment : Moment.ofText? (signedReal negative whole fraction) = none := by
    have hdash : '-' ∉ whole ++ '.' :: fraction :=
      Text.not_mem_point hwhole.isDigits hfraction (by decide) (by decide)
    refine Moment.ofText?_eq_none ?_ (habsent ':' (by decide) (by decide) (by decide))
    cases negative with
    | true => exact hdash
    | false => exact fun hmem ↦ hdash (List.mem_of_mem_tail hmem)
  have hsize : ∀ word : Text, '.' ∉ word → whole ++ '.' :: fraction ≠ word :=
    fun word hword heq ↦ hword (heq ▸ by simp)
  have hread : ofSize? negative (whole ++ '.' :: fraction) =
      real? negative (whole ++ '.' :: fraction) := by
    simp only [ofSize?, hsize "inf".toList (by decide), hsize "nan".toList (by decide), ↓reduceIte,
      decimalDigits?_point hwhole.isDigits hfraction]
  rw [ofWord?.eq_def]
  split
  · rename_i heq
    exact absurd heq (hword 'x' (by decide) (by decide) (by decide) _ (by simp))
  · rename_i heq
    exact absurd heq (hword 'o' (by decide) (by decide) (by decide) _ (by simp))
  · rename_i heq
    exact absurd heq (hword 'b' (by decide) (by decide) (by decide) _ (by simp))
  · simp only [hword 't' (by decide) (by decide) (by decide) "true".toList (by decide),
      hword 'f' (by decide) (by decide) (by decide) "false".toList (by decide), ↓reduceIte,
      hmoment, splitSign_signedReal hwhole, hread, real?_point negative hwhole hfraction hne]

end

end Toml

end PromptTemplate
