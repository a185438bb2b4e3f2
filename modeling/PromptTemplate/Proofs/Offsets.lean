import PromptTemplate.Offset
import PromptTemplate.Proofs.TextCuts

/-!
Differences of offsets, checked or wrapping around. In both ways a difference that is not below
zero is what it should be, if the word holds the offsets (`Arithmetic.minus_eq`). One below zero is
found out where differences are checked (`Arithmetic.minus_checked`), and otherwise it is larger
than any that is not (`Arithmetic.exists_minus_wrapping`).

A span that lies within a body is counted from the start of the body. A span whose ends are not in
order can start behind the start of the body and stop before it, and lies within the body by its
ends alone (`Span.Straddles`); only then its stop cannot be counted from there.
-/

set_option autoImplicit false
set_option relaxedAutoImplicit false

namespace PromptTemplate

namespace Arithmetic

/-- Whether the word that offsets are counted in holds an offset. -/
def Holds : Arithmetic → Nat → Prop
  | .checked, _ => True
  | .wrapping size, n => n < size

variable {arithmetic : Arithmetic} {m n size : Nat}

theorem holds_checked (n : Nat) : checked.Holds n := trivial

theorem Holds.mono (h : arithmetic.Holds n) (hle : m ≤ n) : arithmetic.Holds m := by
  cases arithmetic with
  | checked => trivial
  | wrapping size => exact Nat.lt_of_le_of_lt hle h

/-- A difference that is not below zero is the same in either arithmetic. -/
theorem minus_eq (hm : arithmetic.Holds m) (hle : n ≤ m) : arithmetic.minus m n = .ok (m - n) := by
  cases arithmetic with
  | checked => exact if_pos hle
  | wrapping size =>
    have hsum : m + size - n = m - n + size := by omega
    have hlt : m - n < size := Nat.lt_of_le_of_lt (Nat.sub_le m n) hm
    rw [minus, hsum, Nat.add_mod_right, Nat.mod_eq_of_lt hlt]

/-- A difference below zero is a misstep where differences are checked. -/
theorem minus_checked (hlt : m < n) : checked.minus m n = .error (.belowZero m n) :=
  if_neg (Nat.not_le.mpr hlt)

/-- A difference below zero that wraps around is larger than any that does not. -/
theorem exists_minus_wrapping {k : Nat} (hlt : m < n) (hle : n ≤ k) (hk : k < size) :
    ∃ r, (wrapping size).minus m n = .ok r ∧ k - n < r := by
  refine ⟨(m + size - n) % size, rfl, ?_⟩
  rw [Nat.mod_eq_of_lt (by omega)]
  omega

end Arithmetic

namespace Text

theorem cut_append (front behind : Text) :
    cut (front ++ behind) front.width = .ok (front, behind) := by
  rw [cut, splitAt?_append]

theorem slice_eq_ok_iff {t part : Text} {s : Span} :
    t.slice s = .ok part ↔ s.slice? t = some part := by
  rw [slice]
  cases s.slice? t <;> simp

end Text

namespace Span

/-- Whether a span starts behind the start of a body and stops before it. -/
def Straddles (s body : Span) : Prop := body.start ≤ s.start ∧ s.stop < body.start

variable {arithmetic : Arithmetic} {s body : Span} {size : Nat}

theorem contains_iff : body.contains s = true ↔ body.start ≤ s.start ∧ s.stop ≤ body.stop := by
  rw [contains, Bool.and_eq_true, decide_eq_true_eq, decide_eq_true_eq]

/-- A span that straddles the start of a body passes for one that lies in it. -/
theorem contains_of_straddles (hbody : body.start ≤ body.stop) (h : s.Straddles body) :
    body.contains s = true :=
  contains_iff.mpr ⟨h.1, Nat.le_trans (Nat.le_of_lt h.2) hbody⟩

/-- A span that is not left of an origin is counted from there in either arithmetic. -/
theorem countFrom_eq {origin : Nat} {r : Span} (hstart : arithmetic.Holds s.start)
    (hstop : arithmetic.Holds s.stop) (hr : s.relativeTo? origin = some r) :
    s.countFrom arithmetic origin = .ok r := by
  obtain ⟨⟨hle, hle'⟩, rfl⟩ := Option.ite_some_none_eq_some.mp hr
  rw [countFrom, Arithmetic.minus_eq hstart hle, Arithmetic.minus_eq hstop hle']
  rfl

/-- A span within a body is counted from its start, unless it straddles the start. -/
theorem relativeTo?_of_contains (hcontains : body.contains s = true) :
    (∃ r, s.relativeTo? body.start = some r ∧ ¬ s.Straddles body) ∨
      s.relativeTo? body.start = none ∧ s.Straddles body := by
  obtain ⟨hstart, -⟩ := contains_iff.mp hcontains
  rcases Nat.lt_or_ge s.stop body.start with hlt | hle
  · exact Or.inr ⟨if_neg fun h ↦ Nat.not_le.mpr hlt h.2, hstart, hlt⟩
  · exact Or.inl ⟨_, if_pos ⟨hstart, hle⟩, fun h ↦ Nat.not_lt.mpr hle h.2⟩

/-- Where differences are checked, a span cannot be counted from a start that it straddles. -/
theorem countFrom_checked_of_straddles (h : s.Straddles body) :
    s.countFrom .checked body.start = .error (.belowZero s.stop body.start) := by
  have hstart : Arithmetic.checked.minus s.start body.start = .ok (s.start - body.start) :=
    Arithmetic.minus_eq (Arithmetic.holds_checked _) h.1
  rw [countFrom, hstart, Arithmetic.minus_checked h.2]
  rfl

/-- The stop of a span that straddles the start of a body wraps around beyond the body. -/
theorem exists_countFrom_wrapping_of_straddles (h : s.Straddles body)
    (hbody : body.start ≤ body.stop) (hsize : body.stop < size) (hstart : s.start < size) :
    ∃ r, s.countFrom (.wrapping size) body.start = .ok r ∧
      body.stop - body.start < r.stop := by
  have hstart : (Arithmetic.wrapping size).minus s.start body.start = .ok (s.start - body.start) :=
    Arithmetic.minus_eq hstart h.1
  obtain ⟨stop, hstop, hlt⟩ := Arithmetic.exists_minus_wrapping h.2 hbody hsize
  refine ⟨⟨s.start - body.start, stop⟩, ?_, hlt⟩
  rw [countFrom, hstart, hstop]
  rfl

end Span

end PromptTemplate
