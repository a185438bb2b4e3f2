/-!
Text as a list of characters whose places are counted in UTF-8 bytes. A cut at a byte
offset exists exactly where a character starts or the text ends, so every slice that is
returned is a run of whole characters. The pieces of a cut put together are the text
again, and `width` adds up over them.
-/

set_option autoImplicit false
set_option relaxedAutoImplicit false

namespace PromptTemplate

/-- A text is the list of its characters. -/
abbrev Text := List Char

namespace Text

/-- The number of bytes of a text in UTF-8. -/
def width : Text → Nat
  | [] => 0
  | c :: rest => c.utf8Size + width rest

@[simp] theorem width_nil : width [] = 0 := rfl

@[simp] theorem width_cons (c : Char) (t : Text) : width (c :: t) = c.utf8Size + width t := rfl

@[simp] theorem width_append (s t : Text) : width (s ++ t) = width s + width t := by
  induction s with
  | nil => simp
  | cons c s ih => simp [ih, Nat.add_assoc]

/-- Cuts a text at a byte offset. There is no cut inside a character or beyond the end. -/
def splitAt? : Nat → Text → Option (Text × Text)
  | 0, t => some ([], t)
  | _ + 1, [] => none
  | n + 1, c :: t =>
    if c.utf8Size ≤ n + 1 then
      (splitAt? (n + 1 - c.utf8Size) t).map fun cut ↦ (c :: cut.1, cut.2)
    else none

/-- The two parts at an offset make up the text, and the first of them has that many bytes. -/
theorem splitAt?_eq_some {n : Nat} {t a b : Text} (h : splitAt? n t = some (a, b)) :
    t = a ++ b ∧ width a = n := by
  induction t generalizing n a with
  | nil =>
    cases n with
    | zero => simp_all [splitAt?]
    | succ n => simp [splitAt?] at h
  | cons c t ih =>
    cases n with
    | zero => simp_all [splitAt?]
    | succ n =>
      simp only [splitAt?] at h
      split at h
      · obtain ⟨⟨a', b'⟩, hcut, hab⟩ := Option.map_eq_some_iff.mp h
        simp only [Prod.mk.injEq] at hab
        obtain ⟨rfl, rfl⟩ := hab
        obtain ⟨rfl, hw⟩ := ih hcut
        simp only [List.cons_append, width_cons, true_and]
        omega
      · simp at h

theorem splitAt?_append (a b : Text) : splitAt? (width a) (a ++ b) = some (a, b) := by
  induction a with
  | nil => cases b <;> simp [splitAt?]
  | cons c a ih =>
    have hc : 0 < c.utf8Size := Char.utf8Size_pos c
    obtain ⟨n, hn⟩ : ∃ n, c.utf8Size + width a = n + 1 := ⟨c.utf8Size + width a - 1, by omega⟩
    have hrest : n + 1 - c.utf8Size = width a := by omega
    rw [width_cons, List.cons_append, hn, splitAt?, hrest, ih, if_pos (by omega), Option.map_some]

/-- The part of a text between two byte offsets, which must be in order and both at cuts. -/
def slice? (t : Text) (start stop : Nat) : Option Text :=
  if start ≤ stop then
    (splitAt? start t).bind fun cut ↦ (splitAt? (stop - start) cut.2).map (·.1)
  else none

/-- Puts a text in the place of the slice between two byte offsets. -/
def replaceSlice? (t : Text) (start stop : Nat) (replacement : Text) : Option Text :=
  if start ≤ stop then
    (splitAt? start t).bind fun cut ↦
      (splitAt? (stop - start) cut.2).map fun rest ↦ cut.1 ++ replacement ++ rest.2
  else none

/-- What precedes the first occurrence of a pattern. -/
def before? (pattern : Text) : Text → Option Text
  | [] => if pattern.isPrefixOf [] then some [] else none
  | c :: t =>
    if pattern.isPrefixOf (c :: t) then some []
    else (before? pattern t).map (c :: ·)

/-- The number of lines. A line feed ends a line, and text after the last one is a line too. -/
def lineCount (t : Text) : Nat :=
  match t.getLast? with
  | none => 0
  | some c => t.count '\n' + if c = '\n' then 0 else 1

/-- The texts in order with a separator between neighbours. -/
def join (separator : Text) : List Text → Text
  | [] => []
  | [t] => t
  | t :: more => t ++ separator ++ join separator more

/-- The part before the first occurrence of a character and the part after it. -/
def splitFirst? (c : Char) (t : Text) : Option (Text × Text) :=
  match t.dropWhile (· != c) with
  | [] => none
  | _ :: rest => some (t.takeWhile (· != c), rest)

end Text

end PromptTemplate
