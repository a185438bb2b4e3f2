import PromptTemplate.Proofs.FollowedPaths

/-!
Files that are written and read again. A path that leads to a name in a directory keeps doing so
when a file is put there (`leadsTo_putFile`), and what is put there is what is read
(`read_putFile`). Directories that are there are not made again (`makeDirectories_of_isDirectory`).
So a file can be stored again where one was stored (`store_of_isStorable`), and a file that is there
can be stored anew (`isStorable_of_isFile`).
-/

set_option autoImplicit false
set_option relaxedAutoImplicit false

namespace PromptTemplate

/-! ### Paths to names in directories -/

namespace FileSystem

variable {fs : FileSystem} {path : Text} {place : Place} {name : Text}

/-- Whether a path leads to a directory and names something in it. -/
structure LeadsTo (fs : FileSystem) (path : Text) (place : Place) (name : Text) : Prop where
  path_ne_nil : path ≠ []
  isEntry : FilePath.IsEntry name
  isDirectory : fs.tree.node? place = some .directory
  exists_pieces : ∃ before, FilePath.pieces path = before ++ [name] ∧
    fs.tree.follow (fs.origin path) before = .ok place

/-- What a path leads to: the pieces in front of the last one that is not empty are followed, and
that one is named unless it is a way to stay or to go up, or empty pieces follow it. -/
theorem target_eq {before : List Text} {last : Text} {n : Nat} (hpath : path ≠ [])
    (hlast : last ≠ []) (hpieces : FilePath.pieces path = before ++ [last] ++ List.replicate n []) :
    fs.target path = (fs.tree.follow (fs.origin path) before).bind fun place ↦
      match fs.tree.node? place with
      | some .directory =>
        .ok (place, if n = 0 ∧ last ≠ ['.'] ∧ last ≠ ['.', '.'] then some last else none)
      | some (.file _) => .error .notADirectory
      | none => .error .notFound := by
  have hnamed : ((FilePath.pieces path).reverse.dropWhile (·.isEmpty)).reverse =
      before ++ [last] := by
    rw [hpieces, List.reverse_append, List.reverse_replicate,
      List.dropWhile_append_of_pos (by simp), List.reverse_append, List.reverse_singleton,
      List.singleton_append, List.dropWhile_cons_of_neg (by simpa using hlast), List.reverse_cons,
      List.reverse_reverse]
  have hlength : (before ++ [last]).length = (FilePath.pieces path).length ↔ n = 0 := by
    simp [hpieces]
  rw [target, if_neg (by simpa using hpath)]
  dsimp only
  rw [hnamed, List.dropLast_concat, List.getLast?_concat]
  refine congrArg _ (funext fun place ↦ ?_)
  cases fs.tree.node? place with
  | none => rfl
  | some node =>
    cases node with
    | file content => rfl
    | directory => simp only [Bool.and_eq_true, beq_iff_eq, bne_iff_ne, hlength, and_assoc]

/-- A path with empty pieces only leads to where it begins. -/
theorem target_eq_of_replicate {n : Nat} (hpath : path ≠ [])
    (hpieces : FilePath.pieces path = List.replicate n []) :
    fs.target path =
      match fs.tree.node? (fs.origin path) with
      | some .directory => .ok (fs.origin path, none)
      | some (.file _) => .error .notADirectory
      | none => .error .notFound := by
  have hnamed : ((FilePath.pieces path).reverse.dropWhile (·.isEmpty)).reverse = [] := by
    rw [hpieces, List.reverse_replicate, List.dropWhile_eq_nil_iff.mpr (by simp), List.reverse_nil]
  rw [target, if_neg (by simpa using hpath)]
  dsimp only
  rw [hnamed]
  rfl

/-- The pieces of a path up to the last one that is not empty. -/
theorem exists_pieces_eq (path : Text) : (∃ n, FilePath.pieces path = List.replicate n []) ∨
    ∃ before last n, last ≠ [] ∧
      FilePath.pieces path = before ++ [last] ++ List.replicate n [] := by
  obtain ⟨n, hpieces⟩ := exists_eq_append_replicate (·.isEmpty) (FilePath.pieces path)
    fun _ ↦ List.isEmpty_iff.mp
  have hsolid := fun piece ↦ eq_false_of_mem_getLast?_reverse_dropWhile (·.isEmpty)
    (FilePath.pieces path) (b := piece)
  generalize ((FilePath.pieces path).reverse.dropWhile (·.isEmpty)).reverse = named
    at hpieces hsolid
  rcases List.eq_nil_or_concat named with rfl | ⟨before, last, rfl⟩
  · exact .inl ⟨n, hpieces⟩
  · rw [List.concat_eq_append] at hpieces hsolid
    exact .inr ⟨before, last, n, by simpa using hsolid last List.getLast?_concat, hpieces⟩

/-- A path that leads to a name in a directory has this as its target. -/
theorem target_of_leadsTo (h : fs.LeadsTo path place name) :
    fs.target path = .ok (place, some name) := by
  obtain ⟨before, hpieces, hfollow⟩ := h.exists_pieces
  have hwhole : FilePath.pieces path = before ++ [name] ++ List.replicate 0 [] := by
    rw [hpieces, List.replicate_zero, List.append_nil]
  rw [target_eq h.path_ne_nil h.isEntry.ne_nil hwhole, hfollow]
  simp [Except.bind, h.isDirectory, h.isEntry.ne_dot, h.isEntry.ne_dots]

/-- Only a path that leads there has a target. -/
theorem leadsTo_of_target (h : fs.target path = .ok (place, some name)) :
    fs.LeadsTo path place name := by
  have hpath : path ≠ [] := by
    rintro rfl
    cases h
  rcases exists_pieces_eq path with ⟨n, hpieces⟩ | ⟨before, last, n, hlast, hpieces⟩
  · rw [target_eq_of_replicate hpath hpieces] at h
    split at h <;> cases h
  · rw [target_eq hpath hlast hpieces] at h
    obtain ⟨p, hfollow, h⟩ := exists_of_bind_eq_ok h
    split at h
    · rename_i hnode
      obtain ⟨rfl, hname⟩ := Prod.mk.inj (Except.ok.inj h)
      rw [Option.ite_none_right_eq_some] at hname
      obtain ⟨⟨rfl, hdot, hdots⟩, hsame⟩ := hname
      obtain rfl := Option.some.inj hsame
      rw [List.replicate_zero, List.append_nil] at hpieces
      exact ⟨hpath, ⟨hlast, hdot, hdots⟩, hnode, before, hpieces, hfollow⟩
    · cases h
    · cases h

/-- The file system with a file at a place. -/
def putFile (fs : FileSystem) (place : Place) (content : Content) : FileSystem :=
  { fs with tree := fs.tree.put place (.file content) }

/-- A file is written exactly where the path leads to a name in a directory that is not one itself.
-/
theorem write_eq_ok_iff {content : Content} {fs' : FileSystem} :
    fs.write path content = .ok fs' ↔ ∃ place name, fs.LeadsTo path place name ∧
      fs.tree.node? (place ++ [name]) ≠ some .directory ∧
        fs' = fs.putFile (place ++ [name]) content := by
  constructor
  · intro h
    obtain ⟨⟨place, name?⟩, htarget, h⟩ := exists_of_bind_eq_ok h
    dsimp only at h
    split at h
    · cases h
    · rename_i name
      split at h
      · cases h
      · rename_i hnode
        exact ⟨place, name, leadsTo_of_target htarget, hnode, (Except.ok.inj h).symm⟩
  · rintro ⟨place, name, hleads, hnode, rfl⟩
    rw [write, target_of_leadsTo hleads]
    dsimp only [Except.bind]
    split
    · rename_i hdirectory
      exact absurd hdirectory hnode
    · rfl

theorem find_of_leadsTo (h : fs.LeadsTo path place name)
    (hthere : (fs.tree.node? (place ++ [name])).isSome = true) :
    fs.find path = .ok (place ++ [name]) := by
  obtain ⟨before, hpieces, hfollow⟩ := h.exists_pieces
  rw [find, if_neg (by simpa using h.path_ne_nil), hpieces, FileTree.follow_append, hfollow]
  dsimp only [Except.bind]
  rw [FileTree.follow_cons_entry h.isDirectory h.isEntry, if_pos hthere, FileTree.follow]

section PutFile

variable {content : Content} (h : fs.LeadsTo path place name)
  (hnode : fs.tree.node? (place ++ [name]) ≠ some .directory)
include h

omit h in
theorem node?_putFile : (fs.putFile (place ++ [name]) content).tree.node? (place ++ [name]) =
    some (.file content) := by
  have hne : place ++ [name] ≠ [] := List.append_ne_nil_of_right_ne_nil _ (List.cons_ne_nil _ _)
  rw [putFile, FileTree.node?_put _ hne, if_pos rfl]

include hnode in

/-- A path leads to the same place once a file is there. -/
theorem leadsTo_putFile : (fs.putFile (place ++ [name]) content).LeadsTo path place name := by
  obtain ⟨before, hpieces, hfollow⟩ := h.exists_pieces
  have hne : place ++ [name] ≠ [] := List.append_ne_nil_of_right_ne_nil _ (List.cons_ne_nil _ _)
  refine ⟨h.path_ne_nil, h.isEntry, ?_, before, hpieces, FileTree.follow_put hne hnode hfollow⟩
  have hother : place ≠ place ++ [name] := by simp
  rw [putFile, FileTree.node?_put _ hne, if_neg hother, h.isDirectory]

include hnode in
theorem find_putFile :
    (fs.putFile (place ++ [name]) content).find path = .ok (place ++ [name]) :=
  find_of_leadsTo (leadsTo_putFile h hnode) (by rw [node?_putFile]; rfl)

include hnode in
/-- What is put at a path is what is read there. -/
theorem read_putFile : (fs.putFile (place ++ [name]) content).read path = .ok content := by
  rw [read, find_putFile h hnode]
  dsimp only [Except.bind]
  rw [node?_putFile]

include hnode in
theorem has_putFile : (fs.putFile (place ++ [name]) content).has path = true := by
  rw [has, node?, find_putFile h hnode]
  dsimp only
  rw [node?_putFile]
  rfl

end PutFile

/-! ### Directories that are there -/

/-- A path is one to a directory exactly if following all of it ends at one. -/
theorem isDirectory_iff : fs.isDirectory path = true ↔
    path ≠ [] ∧ ∃ p, fs.tree.follow (fs.origin path) (FilePath.pieces path) = .ok p ∧
      fs.tree.node? p = some .directory := by
  rw [isDirectory, beq_iff_eq, node?, find]
  cases path with
  | nil => simp
  | cons c path =>
    rw [List.isEmpty_cons, if_neg Bool.false_ne_true]
    cases fs.tree.follow (fs.origin (c :: path)) (FilePath.pieces (c :: path)) with
    | error e => simp
    | ok p => simp

/-- A path to a directory leads to a directory and names nothing or something that is there. -/
theorem target_of_isDirectory (h : fs.isDirectory path = true) : ∃ place name?,
    fs.target path = .ok (place, name?) ∧
      ∀ name, name? = some name → (fs.tree.node? (place ++ [name])).isSome = true := by
  obtain ⟨hpath, p, hfollow, -⟩ := isDirectory_iff.mp h
  rcases exists_pieces_eq path with ⟨n, hpieces⟩ | ⟨before, last, n, hlast, hpieces⟩
  · have hn : n ≠ 0 := by
      rintro rfl
      exact FilePath.pieces_ne_nil path hpieces
    obtain ⟨n, rfl⟩ := Nat.exists_eq_succ_of_ne_zero hn
    rw [hpieces] at hfollow
    have hnode := FileTree.node?_of_follow_cons hfollow
    refine ⟨fs.origin path, none, ?_, fun name h ↦ nomatch h⟩
    rw [target_eq_of_replicate hpath hpieces, hnode]
  · rw [hpieces] at hfollow
    obtain ⟨q, hnamed, -⟩ := FileTree.exists_of_follow_append hfollow
    obtain ⟨place, hbefore, hstep⟩ := FileTree.exists_of_follow_append hnamed
    have hnode := FileTree.node?_of_follow_cons hstep
    rw [target_eq hpath hlast hpieces, hbefore]
    dsimp only [Except.bind]
    rw [hnode]
    refine ⟨place, _, rfl, fun name hname ↦ ?_⟩
    rw [Option.ite_none_right_eq_some] at hname
    obtain ⟨⟨-, hdot, hdots⟩, hsame⟩ := hname
    obtain rfl := Option.some.inj hsame
    rw [FileTree.follow_cons_entry hnode ⟨hlast, hdot, hdots⟩] at hstep
    split at hstep
    · assumption
    · cases hstep

/-- A path to a directory leads there without the slashes at its end. -/
theorem isDirectory_bare (h : fs.isDirectory path = true) (hbare : FilePath.bare path ≠ []) :
    fs.isDirectory (FilePath.bare path) = true := by
  obtain ⟨-, p, hfollow, hnode⟩ := isDirectory_iff.mp h
  obtain ⟨n, hpieces, hrooted⟩ := FilePath.exists_pieces_bare hbare
  have horigin : fs.origin path = fs.origin (FilePath.bare path) := by
    rw [origin, origin, hrooted]
  rw [hpieces, horigin] at hfollow
  obtain ⟨q, hq, hrest⟩ := FileTree.exists_of_follow_append hfollow
  have hidle : ∀ piece ∈ List.replicate n ([] : Text), FilePath.IsIdle piece :=
    fun piece hpiece ↦ Or.inl (List.eq_of_mem_replicate hpiece)
  obtain rfl := FileTree.eq_of_follow_idle hidle hrest
  exact isDirectory_iff.mpr ⟨hbare, q, hq, hnode⟩

/-- A directory that is there is not made. -/
theorem makeDirectory_of_isDirectory (h : fs.isDirectory path = true) :
    fs.makeDirectory path = .error .exists := by
  have hdirectory : fs.isDirectory
      (if (FilePath.bare path).isEmpty then path else FilePath.bare path) = true := by
    split
    · exact h
    · rename_i hbare
      exact isDirectory_bare h (by simpa using hbare)
  obtain ⟨place, name?, htarget, hthere⟩ := target_of_isDirectory hdirectory
  change (fs.target (if (FilePath.bare path).isEmpty then path else FilePath.bare path)).bind _ = _
  rw [htarget]
  dsimp only [Except.bind]
  cases name? with
  | none => rfl
  | some name =>
    obtain ⟨node, hnode⟩ := Option.isSome_iff_exists.mp (hthere name rfl)
    simp only [hnode]

/-- No directory is made where there is one. -/
theorem makeDirectories_of_isDirectory (h : fs.isDirectory path = true) :
    fs.makeDirectories path = .ok fs := by
  have hpath := (isDirectory_iff.mp h).1
  rw [makeDirectories, makeDirectoriesWithin, if_neg (by simpa using hpath),
    makeDirectory_of_isDirectory h]
  dsimp only
  rw [if_pos h]

/-- The directory that holds what a path names is there. -/
theorem parent_of_leadsTo (h : fs.LeadsTo path place name) : ∃ parent,
    FilePath.parent? path = some parent ∧ (parent = [] ∨ fs.isDirectory parent = true) := by
  obtain ⟨before, hpieces, hfollow⟩ := h.exists_pieces
  obtain ⟨kept, idle, rfl, hidle, hparent⟩ := FilePath.exists_parent hpieces h.isEntry
  refine ⟨_, hparent, ?_⟩
  by_cases hkept : kept = []
  · subst hkept
    cases FilePath.isRooted path with
    | true => exact Or.inr rfl
    | false => exact Or.inl rfl
  · have hplain : ∀ piece ∈ kept, '/' ∉ piece := by
      intro piece hpiece
      have hmem : piece ∈ FilePath.pieces path := by
        rw [hpieces]
        exact List.mem_append_left _ (List.mem_append_left _ hpiece)
      exact FilePath.not_mem_of_mem_pieces hmem
    have hhead : FilePath.isRooted path = false → kept.head? ≠ some [] := by
      intro hrooted
      obtain ⟨first, more, rfl⟩ := List.exists_cons_of_ne_nil hkept
      have hfirst := FilePath.head?_pieces_ne h.path_ne_nil hrooted
      rwa [hpieces, List.append_assoc] at hfirst
    have horigin : fs.origin (FilePath.ofPieces (FilePath.isRooted path) kept) =
        fs.origin path := by
      rw [origin, FilePath.isRooted_ofPieces hplain hhead, origin]
    obtain ⟨p, hp, hrest⟩ := FileTree.exists_of_follow_append hfollow
    obtain rfl := FileTree.eq_of_follow_idle hidle hrest
    refine Or.inr (isDirectory_iff.mpr ⟨?_, p, ?_, h.isDirectory⟩)
    · intro hnil
      have hrooted := FilePath.isRooted_ofPieces hplain hhead
      have hps := FilePath.pieces_ofPieces hkept hplain hhead
      rw [hnil] at hrooted hps
      exact hhead hrooted.symm (hps ▸ rfl)
    · rw [horigin, FilePath.pieces_ofPieces hkept hplain hhead, hp]

/-! ### Storing a file -/

/-- The file system with the directories above a path. -/
def withParents (fs : FileSystem) (path : Text) : Except SystemError FileSystem :=
  match FilePath.parent? path with
  | none => .ok fs
  | some parent => fs.makeDirectories parent

/-- Whether a file can be stored at a path: the directories above it can be made, and then the path
names something in a directory that is no directory. -/
def IsStorable (fs : FileSystem) (path : Text) : Prop :=
  ∃ made place name, fs.withParents path = .ok made ∧ made.LeadsTo path place name ∧
    made.tree.node? (place ++ [name]) ≠ some .directory

/-- No directory is made where the path leads to a name in one. -/
theorem withParents_of_leadsTo (h : fs.LeadsTo path place name) :
    fs.withParents path = .ok fs := by
  obtain ⟨parent, hparent, hthere⟩ := parent_of_leadsTo h
  rw [withParents, hparent]
  rcases hthere with rfl | hdirectory
  · rfl
  · exact makeDirectories_of_isDirectory hdirectory

/-- A file can be stored under a name in a directory unless a directory has the name. -/
theorem isStorable_of_leadsTo (h : fs.LeadsTo path place name)
    (hnode : fs.tree.node? (place ++ [name]) ≠ some .directory) : fs.IsStorable path :=
  ⟨fs, place, name, withParents_of_leadsTo h, h, hnode⟩

/-- Storing is making the directories above and writing the file; each can fail. -/
theorem store_eq (content : Content) (directoryContext fileContext : String) :
    fs.store path content directoryContext fileContext =
      match fs.withParents path with
      | .error e =>
        (fs, some (e.fault (directoryContext.toList ++ (FilePath.parent? path).getD [])))
      | .ok made =>
        match made.write path content with
        | .ok written => (written, none)
        | .error e => (made, some (e.fault (fileContext.toList ++ path))) := by
  rw [store, withParents]
  cases FilePath.parent? path with
  | none => rfl
  | some parent =>
    dsimp only
    cases fs.makeDirectories parent with
    | error e => rfl
    | ok made => rfl

/-- What is stored is there and is read, and it can be stored over. -/
theorem store_of_isStorable (h : fs.IsStorable path) (content : Content) :
    ∃ stored, (∀ directoryContext fileContext,
        fs.store path content directoryContext fileContext = (stored, none)) ∧
      stored.IsStorable path ∧ stored.has path = true ∧ stored.read path = .ok content := by
  obtain ⟨made, place, name, hmade, hleads, hnode⟩ := h
  have hwrite : made.write path content = .ok (made.putFile (place ++ [name]) content) :=
    write_eq_ok_iff.mpr ⟨place, name, hleads, hnode, rfl⟩
  refine ⟨_, fun directoryContext fileContext ↦ ?_, isStorable_of_leadsTo
    (leadsTo_putFile hleads hnode) ?_, has_putFile hleads hnode, read_putFile hleads hnode⟩
  · rw [store_eq, hmade]
    dsimp only
    rw [hwrite]
  · rw [node?_putFile]
    exact fun h ↦ nomatch h

/-! ### Files that are there -/

/-- Whether the directory in which paths start and all those above it are directories. -/
def IsGrounded (fs : FileSystem) : Prop :=
  ∀ place, place <+: fs.directory → fs.tree.node? place = some .directory

/-- A path to a file names it in a directory. -/
theorem leadsTo_of_isFile (hfs : fs.IsGrounded) (h : fs.isFile path = true) : ∃ place name,
    fs.LeadsTo path place name ∧ fs.tree.node? (place ++ [name]) ≠ some .directory := by
  have hstart : ∀ p, p <+: fs.origin path → fs.tree.node? p = some .directory := by
    intro p hp
    rw [origin] at hp
    split at hp
    · rw [List.prefix_nil.mp hp]
      rfl
    · exact hfs p hp
  obtain ⟨content, hcontent⟩ : ∃ content, fs.node? path = some (.file content) := by
    unfold isFile at h
    split at h
    · exact ⟨_, by assumption⟩
    · cases h
  rw [node?] at hcontent
  split at hcontent
  · rename_i found hfind
    rw [find] at hfind
    split at hfind
    · cases hfind
    · rename_i hpath
      rcases List.eq_nil_or_concat (FilePath.pieces path) with hnil | ⟨before, last, hpieces⟩
      · exact absurd hnil (FilePath.pieces_ne_nil path)
      · rw [List.concat_eq_append] at hpieces
        rw [hpieces] at hfind
        obtain ⟨place, hbefore, hlast⟩ := FileTree.exists_of_follow_append hfind
        have hnode := FileTree.node?_of_follow_cons hlast
        have hfile : fs.tree.node? found ≠ some .directory := by
          rw [hcontent]
          exact fun h ↦ nomatch h
        have hentry : FilePath.IsEntry last :=
          FileTree.isEntry_of_follow hstart hbefore hlast hfile
        rw [FileTree.follow_cons_entry hnode hentry] at hlast
        split at hlast
        · obtain rfl := Except.ok.inj hlast
          exact ⟨place, last,
            ⟨by simpa using hpath, hentry, hnode, before, hpieces, hbefore⟩, hfile⟩
        · cases hlast
  · cases hcontent

/-- Where a file is, a file can be stored. -/
theorem isStorable_of_isFile (hfs : fs.IsGrounded) (h : fs.isFile path = true) :
    fs.IsStorable path := by
  obtain ⟨place, name, hleads, hnode⟩ := leadsTo_of_isFile hfs h
  exact isStorable_of_leadsTo hleads hnode

/-- Storing succeeds only where it can. -/
theorem isStorable_of_store {content : Content} {directoryContext fileContext : String}
    (h : (fs.store path content directoryContext fileContext).2 = none) : fs.IsStorable path := by
  rw [store_eq] at h
  split at h
  · cases h
  · rename_i made hmade
    split at h
    · rename_i written hwrite
      obtain ⟨place, name, hleads, hnode, -⟩ := write_eq_ok_iff.mp hwrite
      exact ⟨made, place, name, hmade, hleads, hnode⟩
    · cases h

end FileSystem

end PromptTemplate
