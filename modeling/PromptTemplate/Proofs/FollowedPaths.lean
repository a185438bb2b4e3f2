import PromptTemplate.FileTree
import PromptTemplate.Proofs.PathPieces

/-!
Paths that are followed in a tree. Pieces are followed one by one, each of them in a directory
(`follow_append`, `node?_of_follow_cons`), so whatever they lead to is within directories only
(`node?_of_follow`). What is put at a place is there, nothing changes anywhere else (`node?_put`),
and a file that is put where no directory is leaves all paths leading where they led (`follow_put`).
-/

set_option autoImplicit false
set_option relaxedAutoImplicit false

namespace PromptTemplate

/-- Of two steps that succeed one after the other, each one succeeds. -/
theorem exists_of_bind_eq_ok {ε α β : Type} {x : Except ε α} {f : α → Except ε β} {b : β}
    (h : x.bind f = .ok b) : ∃ a, x = .ok a ∧ f a = .ok b := by
  cases x with
  | error e => cases h
  | ok a => exact ⟨a, rfl, h⟩

namespace FileTree

variable {tree : FileTree} {place place' : Place} {piece : Text}

/-! ### Following pieces -/

/-- A path is followed part by part. -/
theorem follow_append (ps qs : List Text) (place : Place) :
    tree.follow place (ps ++ qs) = (tree.follow place ps).bind fun p ↦ tree.follow p qs := by
  induction ps generalizing place with
  | nil => rfl
  | cons piece ps ih =>
    rw [List.cons_append, follow, follow]
    split
    · rfl
    · rfl
    · split
      · exact ih place
      · split
        · exact ih _
        · split
          · exact ih _
          · rfl

/-- A path that leads somewhere leads there by way of each of its parts. -/
theorem exists_of_follow_append {ps qs : List Text}
    (h : tree.follow place (ps ++ qs) = .ok place') :
    ∃ p, tree.follow place ps = .ok p ∧ tree.follow p qs = .ok place' := by
  rw [follow_append] at h
  exact exists_of_bind_eq_ok h

/-- A piece can only be followed in a directory. -/
theorem node?_of_follow_cons {ps : List Text} (h : tree.follow place (piece :: ps) = .ok place') :
    tree.node? place = some .directory := by
  rw [follow] at h
  split at h
  · cases h
  · cases h
  · assumption

/-- A piece that names nothing is passed over in a directory. -/
theorem follow_cons_idle (hnode : tree.node? place = some .directory)
    (hpiece : FilePath.IsIdle piece) (ps : List Text) :
    tree.follow place (piece :: ps) = tree.follow place ps := by
  rw [follow, hnode]
  rcases hpiece with rfl | rfl
  · rfl
  · rfl

/-- A name in a directory leads to what is there. -/
theorem follow_cons_entry (hnode : tree.node? place = some .directory)
    (hpiece : FilePath.IsEntry piece) (ps : List Text) :
    tree.follow place (piece :: ps) =
      if (tree.node? (place ++ [piece])).isSome then tree.follow (place ++ [piece]) ps
      else .error .notFound := by
  rw [follow, hnode]
  simp [hpiece.ne_nil, hpiece.ne_dot, hpiece.ne_dots]

/-- Pieces that lead nowhere stay where they are. -/
theorem eq_of_follow_idle {ps : List Text} (hps : ∀ piece ∈ ps, FilePath.IsIdle piece)
    (h : tree.follow place ps = .ok place') : place = place' := by
  induction ps with
  | nil => exact Except.ok.inj h
  | cons piece ps ih =>
    rw [follow_cons_idle (node?_of_follow_cons h) (hps piece List.mem_cons_self)] at h
    exact ih (fun p hp ↦ hps p (List.mem_cons_of_mem _ hp)) h

/-- Whatever pieces lead to, it is within directories only. -/
theorem node?_of_follow {start p : Place} {ps : List Text}
    (hstart : ∀ p, p <+: start → p ≠ start → tree.node? p = some .directory)
    (h : tree.follow start ps = .ok place) (hp : p <+: place) (hne : p ≠ place) :
    tree.node? p = some .directory := by
  induction ps generalizing start with
  | nil =>
    obtain rfl := Except.ok.inj h
    exact hstart p hp hne
  | cons piece ps ih =>
    have hnode := node?_of_follow_cons h
    have hall : ∀ p, p <+: start → tree.node? p = some .directory := by
      intro p hp
      by_cases heq : p = start
      · rwa [heq]
      · exact hstart p hp heq
    rw [follow, hnode] at h
    dsimp only at h
    split at h
    · exact ih hstart h
    · split at h
      · exact ih (fun p hp _ ↦ hall p (hp.trans (List.dropLast_prefix start))) h
      · split at h
        · refine ih (fun p hp hne ↦ ?_) h
          rcases List.prefix_concat_iff.mp hp with heq | hp
          · exact absurd heq hne
          · exact hall p hp
        · cases h

/-- The last piece on the way to what is no directory is a name. -/
theorem isEntry_of_follow {start : Place} {before : List Text}
    (hstart : ∀ p, p <+: start → tree.node? p = some .directory)
    (hbefore : tree.follow start before = .ok place)
    (hlast : tree.follow place [piece] = .ok place')
    (hplace : tree.node? place' ≠ some .directory) : FilePath.IsEntry piece := by
  have hnode := node?_of_follow_cons hlast
  have hidle : ¬ FilePath.IsIdle piece := by
    intro hidle
    obtain rfl := eq_of_follow_idle (by simpa using hidle) hlast
    exact hplace hnode
  have hdots : piece ≠ ['.', '.'] := by
    rintro rfl
    rw [follow, hnode] at hlast
    obtain rfl : place.dropLast = place' := Except.ok.inj hlast
    by_cases htop : place.dropLast = place
    · exact hplace (by rw [htop, hnode])
    · exact hplace (node?_of_follow (fun p hp _ ↦ hstart p hp) hbefore
        (List.dropLast_prefix place) htop)
  exact ⟨fun h ↦ hidle (.inl h), fun h ↦ hidle (.inr h), hdots⟩

/-! ### Putting a file -/

theorem node?_of_ne_nil (hplace : place ≠ []) :
    tree.node? place = (tree.nodes.find? fun entry ↦ entry.1 = place).map (·.2) := by
  rw [node?, if_neg (by simpa using hplace)]

/-- What is put at a place is there, and nothing changes anywhere else. -/
theorem node?_put (node : Node) (hplace : place ≠ []) (other : Place) :
    (tree.put place node).node? other = if other = place then some node else tree.node? other := by
  by_cases hother : other = []
  · subst hother
    rw [if_neg hplace.symm]
    rfl
  · rw [node?_of_ne_nil hother, node?_of_ne_nil hother, put]
    split
    · rename_i hthere
      have hkey : ∀ entry : Place × Node,
          (if entry.1 = place then (place, node) else entry).1 = entry.1 := by
        intro entry
        split
        · rename_i heq
          exact heq.symm
        · rfl
      simp only [List.find?_map, Function.comp_def, hkey]
      split
      · rename_i heq
        subst heq
        obtain ⟨old, hold⟩ := Option.isSome_iff_exists.mp hthere
        rw [node?_of_ne_nil hplace] at hold
        obtain ⟨entry, hentry, -⟩ := Option.map_eq_some_iff.mp hold
        have hfound : entry.1 = other := by simpa using List.find?_some hentry
        rw [hentry, Option.map_some, if_pos hfound, Option.map_some]
      · rename_i hne
        cases hentry : tree.nodes.find? fun entry ↦ entry.1 = other with
        | none => rfl
        | some entry =>
          have hfound : entry.1 = other := by simpa using List.find?_some hentry
          rw [Option.map_some, if_neg (hfound ▸ hne)]
    · rename_i hmissing
      rw [node?_of_ne_nil hplace, Option.isSome_map, Bool.not_eq_true, Option.isSome_eq_false_iff,
        Option.isNone_iff_eq_none] at hmissing
      rw [List.find?_append]
      split
      · rename_i heq
        subst heq
        rw [hmissing, Option.none_or]
        simp
      · rename_i hne
        simp [Ne.symm hne]

/-- A file that is put where no directory is leaves all paths leading where they led. -/
theorem follow_put {content : Content} (hplace : place ≠ [])
    (hnode : tree.node? place ≠ some .directory) {ps : List Text} {start : Place}
    (h : tree.follow start ps = .ok place') :
    (tree.put place (.file content)).follow start ps = .ok place' := by
  have hdirectory : ∀ {p}, tree.node? p = some .directory →
      (tree.put place (.file content)).node? p = some .directory := by
    intro p hp
    have hne : p ≠ place := by
      rintro rfl
      exact hnode hp
    rw [node?_put _ hplace, if_neg hne, hp]
  have hthere : ∀ {p}, (tree.node? p).isSome = true →
      ((tree.put place (.file content)).node? p).isSome = true := by
    intro p hp
    rw [node?_put _ hplace]
    split
    · rfl
    · exact hp
  induction ps generalizing start with
  | nil => exact h
  | cons piece ps ih =>
    have hstart := node?_of_follow_cons h
    rw [follow, hstart] at h
    rw [follow, hdirectory hstart]
    dsimp only at h ⊢
    split
    · rename_i hidle
      rw [if_pos hidle] at h
      exact ih h
    · rename_i hidle
      rw [if_neg hidle] at h
      split
      · rename_i hup
        rw [if_pos hup] at h
        exact ih h
      · rename_i hup
        rw [if_neg hup] at h
        split at h
        · rename_i hsome
          rw [if_pos (hthere hsome)]
          exact ih h
        · cases h

end FileTree

end PromptTemplate
