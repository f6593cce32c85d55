import Subscription.Proofs.Files.Grounded
import Subscription.Proofs.Store.Contents

/-!
# The neighbours of a store

A store of files writes and removes its entries and their temporary files, and makes its directory;
whatever becomes of an operation, files of any other name stay as they are. That the store may be
in the same directory as such a file does not matter, nor does what its entries are.
-/

namespace Subscription

namespace FileStore

open FileTree

variable {dir : Path} {tree tree' : FileTree} {name key : String}

/-- No entry has a file of this name, and no temporary file has it. -/
structure IsForeign (name : String) : Prop where
  entry : ∀ key, fileName key ≠ name
  temporary : ∀ key, temporaryName key ≠ name

theorem isForeign_of_suffix (entry : ¬".json".toList <:+ name.toList)
    (temporary : ¬".tmp".toList <:+ name.toList) : IsForeign name where
  entry key := by
    rintro rfl
    exact entry ⟨key.toList, by rw [fileName, String.toList_append]⟩
  temporary key := by
    rintro rfl
    exact temporary ⟨("." ++ fileName key).toList,
      by simp only [temporaryName, String.toList_append]⟩

theorem spares_perform (foreign : IsForeign name) {step : Step}
    (h : perform dir key tree step = .ok tree') : Spares name tree tree' := by
  have plain := fun place => step_temporaryName place key
  have different := foreign.temporary key
  cases step with
  | create => exact .write plain different h
  | append bytes => exact .append plain different h
  | rename =>
    exact .rename plain different (fun place => step_fileName place key) (foreign.entry key) h

theorem spares_performAll (foreign : IsForeign name) (steps : List Step) (tree : FileTree) :
    Spares name tree (performAll dir key steps tree).2 := by
  induction steps generalizing tree with
  | nil => exact .refl name tree
  | cons step rest ih =>
    rw [performAll]
    split
    · next between performed => exact (spares_perform foreign performed).trans (ih between)
    · exact .refl name tree

/-- Writing an entry, as far as it gets, leaves all files of other names. -/
theorem spares_write (foreign : IsForeign name) (dir : Path) (key : String) (value : Json)
    (tree : FileTree) : Spares name tree (FileStore.write dir key value tree).2 := by
  have room := (AddsDirectories.makeDirectories tree dir).spares name
  rw [FileStore.write]
  split
  · exact .refl name tree
  · split
    · next made =>
      rw [made] at room
      exact room
    · next made =>
      rw [made] at room
      exact room.trans (spares_performAll foreign (steps value) _)

/-- Removing an entry leaves all files of other names. -/
theorem spares_delete (foreign : IsForeign name) (dir : Path) (key : String) (tree : FileTree) :
    Spares name tree (FileStore.delete dir key tree).2 := by
  have plain := fun place => step_fileName place key
  rw [FileStore.delete, fileName?]
  split
  · exact .refl name tree
  · next valid =>
    split at valid
    · obtain rfl := Except.ok.inj valid
      split
      · next removed => exact .remove plain (foreign.entry key) removed
      · exact .refl name tree
      · exact .refl name tree
    · cases valid

end FileStore

end Subscription
