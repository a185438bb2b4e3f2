import Mathlib.Data.List.Infix
import PromptTemplate.Proofs.StoredFiles

/-!
What happens to the files when a file cannot be stored. Behind a failure there may be directories
that were not there before (`sameFiles_of_makeDirectoriesWithin`), but every file is as it was
(`sameFiles_of_store`). A file that is there can always be stored over, so if anything is known of
its content then storing does not fail (`store_of_read`).
-/

set_option autoImplicit false
set_option relaxedAutoImplicit false

namespace PromptTemplate.FileSystem

variable {fs made after : FileSystem} {path : Text} {content : Content}

/-- Whether two file systems have the same files with the same contents. Their directories may
differ. -/
structure SameFiles (fs after : FileSystem) : Prop where
  directory_eq : after.directory = fs.directory
  file_iff : ∀ place content,
    after.tree.node? place = some (.file content) ↔ fs.tree.node? place = some (.file content)

namespace SameFiles

theorem refl (fs : FileSystem) : fs.SameFiles fs := ⟨rfl, fun _ _ ↦ Iff.rfl⟩

theorem trans (h : fs.SameFiles made) (h' : made.SameFiles after) : fs.SameFiles after :=
  ⟨h'.directory_eq.trans h.directory_eq,
    fun place content ↦ (h'.file_iff place content).trans (h.file_iff place content)⟩

end SameFiles

instance (fs : FileSystem) : Decidable fs.IsGrounded :=
  decidable_of_iff (∀ place ∈ fs.directory.inits, fs.tree.node? place = some .directory)
    (by simp only [IsGrounded, List.mem_inits])

/-! ### Directories that are made -/

/-- A directory is made where nothing was. -/
theorem sameFiles_of_makeDirectory (h : fs.makeDirectory path = .ok made) :
    fs.SameFiles made := by
  obtain ⟨⟨place, name?⟩, -, h⟩ := exists_of_bind_eq_ok h
  dsimp only at h
  split at h
  · cases h
  · rename_i name
    split at h
    · cases h
    · rename_i hnone
      obtain rfl := Except.ok.inj h
      have hne : place ++ [name] ≠ [] := List.append_ne_nil_of_right_ne_nil _ (List.cons_ne_nil _ _)
      refine ⟨rfl, fun other content ↦ ?_⟩
      rw [FileTree.node?_put _ hne]
      split
      · rename_i hother
        rw [hother, hnone]
        exact ⟨nofun, nofun⟩
      · exact Iff.rfl

/-- Making directories, those above first, keeps all files. -/
theorem sameFiles_of_makeDirectoriesWithin {above : Nat}
    (h : fs.makeDirectoriesWithin above path = .ok made) : fs.SameFiles made := by
  induction above generalizing path made with
  | zero => cases h
  | succ above ih =>
    rw [makeDirectoriesWithin] at h
    split at h
    · obtain rfl := Except.ok.inj h
      exact .refl fs
    · dsimp only at h
      split at h
      · rename_i hmade
        obtain rfl := Except.ok.inj h
        exact sameFiles_of_makeDirectory hmade
      · split at h
        · cases h
        · obtain ⟨between, habove, h⟩ := exists_of_bind_eq_ok h
          split at h
          · rename_i hmade
            obtain rfl := Except.ok.inj h
            exact (ih habove).trans (sameFiles_of_makeDirectory hmade)
          · split at h
            · obtain rfl := Except.ok.inj h
              exact ih habove
            · cases h
      · split at h
        · obtain rfl := Except.ok.inj h
          exact .refl fs
        · cases h

/-- Making the directories above a path keeps all files. -/
theorem sameFiles_of_withParents (h : fs.withParents path = .ok made) : fs.SameFiles made := by
  rw [withParents] at h
  split at h
  · obtain rfl := Except.ok.inj h
    exact .refl fs
  · exact sameFiles_of_makeDirectoriesWithin h

/-! ### Storing that fails or cannot fail -/

/-- A file that cannot be stored leaves all files as they were. -/
theorem sameFiles_of_store {directoryContext fileContext : String}
    (h : (fs.store path content directoryContext fileContext).2 ≠ none) :
    fs.SameFiles (fs.store path content directoryContext fileContext).1 := by
  rw [store_eq] at h ⊢
  cases hmade : fs.withParents path with
  | error e => exact .refl fs
  | ok made =>
    rw [hmade] at h
    dsimp only at h ⊢
    cases hwrite : made.write path content with
    | error e => exact sameFiles_of_withParents hmade
    | ok written =>
      rw [hwrite] at h
      exact absurd rfl h

theorem isFile_of_read (h : fs.read path = .ok content) : fs.isFile path = true := by
  obtain ⟨place, hfind, h⟩ := exists_of_bind_eq_ok h
  split at h
  · rename_i hnode
    rw [isFile, node?, hfind]
    dsimp only
    rw [hnode]
  · cases h
  · cases h

/-- What can be read can be stored over. -/
theorem store_of_read (hfs : fs.IsGrounded) (h : fs.read path = .ok content) (other : Content)
    (directoryContext fileContext : String) :
    (fs.store path other directoryContext fileContext).2 = none := by
  obtain ⟨stored, hstore, -⟩ :=
    store_of_isStorable (isStorable_of_isFile hfs (isFile_of_read h)) other
  rw [hstore]

end PromptTemplate.FileSystem
