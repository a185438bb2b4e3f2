import PromptTemplate.FilePath
import PromptTemplate.Proofs.TextParts

/-!
The pieces of a path. A path is its root, if it has one, and its pieces with slashes between them
(`exists_eq_root_append`); pieces without slashes that are put together again are the pieces of the
path that they make (`pieces_ofPieces`). So the pieces of the parent of a path are those before its
last one, but for some at the end that lead nowhere (`exists_parent`).
-/

set_option autoImplicit false
set_option relaxedAutoImplicit false

namespace PromptTemplate.FilePath

/-- What a path with or without a root begins with. -/
def root (rooted : Bool) : Text := if rooted then ['/'] else []

/-- Whether a piece of a path is the name of something, and not a way to stay or to go up. -/
structure IsEntry (piece : Text) : Prop where
  ne_nil : piece ≠ []
  ne_dot : piece ≠ ['.']
  ne_dots : piece ≠ ['.', '.']

/-- Whether a piece of a path leads nowhere. -/
def IsIdle (piece : Text) : Prop := piece = [] ∨ piece = ['.']

/-! ### Pieces -/

/-- The pieces of a path are the parts of what follows its root. -/
theorem exists_eq_root_append (path : Text) : ∃ rest,
    path = root (isRooted path) ++ rest ∧ pieces path = rest.splitOn '/' := by
  match path with
  | [] => exact ⟨[], rfl, rfl⟩
  | c :: rest =>
    by_cases hc : c = '/'
    · subst hc
      have hrooted : isRooted ('/' :: rest) = true := rfl
      refine ⟨rest, by rw [hrooted]; rfl, ?_⟩
      rw [pieces, hrooted, if_pos rfl, List.splitOn_cons_eq_if_modifyHead,
        if_pos (beq_self_eq_true '/'), List.tail_cons]
    · have hrooted : isRooted (c :: rest) = false := by
        simpa [isRooted] using hc
      refine ⟨c :: rest, by rw [hrooted]; rfl, ?_⟩
      rw [pieces, hrooted, if_neg Bool.false_ne_true]

theorem pieces_ne_nil (path : Text) : pieces path ≠ [] := by
  obtain ⟨rest, -, hpieces⟩ := exists_eq_root_append path
  rw [hpieces]
  exact List.splitOn_ne_nil _ _

/-- No piece has a slash in it. -/
theorem not_mem_of_mem_pieces {path piece : Text} (h : piece ∈ pieces path) : '/' ∉ piece := by
  obtain ⟨rest, -, hpieces⟩ := exists_eq_root_append path
  rw [hpieces] at h
  exact Text.not_mem_of_mem_splitOn h

/-- The first piece of a path without a root is not empty. -/
theorem head?_pieces_ne {path : Text} (hpath : path ≠ []) (hrooted : isRooted path = false) :
    (pieces path).head? ≠ some [] := by
  obtain ⟨c, rest, rfl⟩ := List.exists_cons_of_ne_nil hpath
  have hc : c ≠ '/' := by simpa [isRooted] using hrooted
  rw [pieces, hrooted, if_neg Bool.false_ne_true, List.splitOn_cons_eq_if_modifyHead,
    if_neg (by simpa using hc)]
  obtain ⟨first, more, hparts⟩ := List.exists_cons_of_ne_nil (List.splitOn_ne_nil '/' rest)
  rw [hparts, List.modifyHead_cons, List.head?_cons]
  exact fun h ↦ List.cons_ne_nil c first (Option.some.inj h)

/-- What follows the root decides about the root as well. -/
theorem isRooted_root_append {rooted : Bool} {rest : Text}
    (h : rooted = false → rest.head? ≠ some '/') : isRooted (root rooted ++ rest) = rooted := by
  cases rooted with
  | true => rfl
  | false => simpa [isRooted, root] using h rfl

theorem pieces_root_append {rooted : Bool} {rest : Text}
    (h : rooted = false → rest.head? ≠ some '/') :
    pieces (root rooted ++ rest) = rest.splitOn '/' := by
  have hrooted := isRooted_root_append h
  obtain ⟨rest', hrest, hpieces⟩ := exists_eq_root_append (root rooted ++ rest)
  rw [hrooted] at hrest
  rw [hpieces, List.append_cancel_left hrest]

/-- A text that is joined from pieces begins with a slash only if its first piece is empty. -/
theorem head?_join_ne {ps : List Text} (hplain : ∀ piece ∈ ps, '/' ∉ piece)
    (hhead : ps.head? ≠ some []) : (Text.join ['/'] ps).head? ≠ some '/' := by
  match ps with
  | [] => simp [Text.join]
  | [piece] =>
    rw [Text.join]
    exact fun h ↦ hplain piece List.mem_cons_self (List.mem_of_mem_head? h)
  | piece :: next :: more =>
    obtain ⟨c, rest, rfl⟩ := List.exists_cons_of_ne_nil fun h ↦ hhead (congrArg some h)
    rw [Text.join]
    · exact fun h ↦ hplain _ List.mem_cons_self (by
        rw [← Option.some.inj h]
        exact List.mem_cons_self)
    · exact List.cons_ne_nil _ _

section OfPieces

variable {rooted : Bool} {ps : List Text} (hne : ps ≠ [])
  (hplain : ∀ piece ∈ ps, '/' ∉ piece) (hhead : rooted = false → ps.head? ≠ some [])
include hplain hhead

theorem isRooted_ofPieces : isRooted (ofPieces rooted ps) = rooted :=
  isRooted_root_append fun h ↦ head?_join_ne hplain (hhead h)

include hne in

/-- A path that is made of pieces has these pieces. -/
theorem pieces_ofPieces : pieces (ofPieces rooted ps) = ps := by
  have hpieces : pieces (root rooted ++ Text.join ['/'] ps) = (Text.join ['/'] ps).splitOn '/' :=
    pieces_root_append fun h ↦ head?_join_ne hplain (hhead h)
  exact hpieces.trans (Text.splitOn_join hplain hne)

end OfPieces

/-! ### Slashes at the end -/

/-- A path without the slashes at its end. -/
def bare (path : Text) : Text := (path.reverse.dropWhile (· == '/')).reverse

/-- A path is its bare form with slashes behind it. -/
theorem exists_eq_bare_append (path : Text) : ∃ n, path = bare path ++ List.replicate n '/' :=
  exists_eq_append_replicate _ path fun _ h ↦ beq_iff_eq.mp h

/-- Slashes at the end stand before empty pieces. -/
theorem exists_pieces_bare {path : Text} (h : bare path ≠ []) : ∃ n,
    pieces path = pieces (bare path) ++ List.replicate n [] ∧
      isRooted path = isRooted (bare path) := by
  obtain ⟨n, hpath⟩ := exists_eq_bare_append path
  generalize bare path = short at h hpath
  obtain ⟨rest, hshort, hpieces⟩ := exists_eq_root_append short
  have hhead : isRooted short = false → (rest ++ List.replicate n '/').head? ≠ some '/' := by
    intro hrooted
    rw [hrooted] at hshort
    obtain rfl : short = rest := hshort
    obtain ⟨c, more, rfl⟩ := List.exists_cons_of_ne_nil h
    simpa [isRooted] using hrooted
  have hsplit : path = root (isRooted short) ++ (rest ++ List.replicate n '/') := by
    rw [← List.append_assoc, ← hshort, hpath]
  refine ⟨n, ?_, ?_⟩
  · rw [hsplit, pieces_root_append hhead, Text.splitOn_append_replicate, hpieces]
  · rw [hsplit, isRooted_root_append hhead]

/-! ### The parent -/

/-- What is dropped from the end leads nowhere. -/
theorem exists_eq_append_dropIdle (rooted : Bool) (ps : List Text) :
    ∃ idle, ps = idle ++ dropIdle rooted ps ∧ ∀ piece ∈ idle, IsIdle piece := by
  induction ps with
  | nil => exact ⟨[], rfl, fun piece h ↦ absurd h List.not_mem_nil⟩
  | cons piece ps ih =>
    rw [dropIdle]
    split
    · rename_i hidle
      obtain ⟨idle, hps, hall⟩ := ih
      have hpiece : IsIdle piece := by
        rw [Bool.or_eq_true, Bool.and_eq_true, List.isEmpty_iff, beq_iff_eq] at hidle
        exact hidle.imp id And.left
      refine ⟨piece :: idle, by rw [List.cons_append, ← hps], ?_⟩
      rintro other (_ | ⟨_, hother⟩)
      · exact hpiece
      · exact hall other hother
    · exact ⟨[], rfl, fun piece h ↦ absurd h List.not_mem_nil⟩

theorem dropIdle_cons_of_isEntry {rooted : Bool} {name : Text} (h : IsEntry name)
    (ps : List Text) : dropIdle rooted (name :: ps) = name :: ps := by
  rw [dropIdle, if_neg]
  simp [h.ne_nil, h.ne_dot]

/-- The parent of a path is the pieces before its last one, but for some that lead nowhere. -/
theorem exists_parent {path name : Text} {before : List Text}
    (hpieces : pieces path = before ++ [name]) (hname : IsEntry name) :
    ∃ kept idle, before = kept ++ idle ∧ (∀ piece ∈ idle, IsIdle piece) ∧
      parent? path = some (ofPieces (isRooted path) kept) := by
  obtain ⟨idle, hidle, hall⟩ := exists_eq_append_dropIdle (isRooted path) before.reverse
  have hcomponents : components path = before ++ [name] := by
    rw [components, hpieces, List.reverse_append, List.reverse_singleton, List.singleton_append,
      dropIdle_cons_of_isEntry hname, List.reverse_cons, List.reverse_reverse]
  refine ⟨(dropIdle (isRooted path) before.reverse).reverse, idle.reverse, ?_, ?_, ?_⟩
  · have hbefore := congrArg List.reverse hidle
    rwa [List.reverse_reverse, List.reverse_append] at hbefore
  · exact fun piece h ↦ hall piece (List.mem_reverse.mp h)
  · unfold parent?
    rw [hcomponents]
    split
    · rename_i hnil
      exact absurd hnil (List.append_ne_nil_of_right_ne_nil _ (List.cons_ne_nil _ _))
    · rw [List.dropLast_concat]

end PromptTemplate.FilePath
