import Subscription.Proofs.Store.Contents
import Subscription.Proofs.Text.Parts

/-!
# The files of different keys

A key that is accepted becomes part of two names, that of its entry and that of the file which the
entry is written to first. Neither leads out of the directory, because no character of a key is a
separator and no entry begins with a point. No two of these names are the same: what is put around a
key can be taken off again, and only temporary files begin with a point
(`FileStore.keys_have_names_of_their_own`).
-/

namespace Subscription

namespace FileStore

open FileTree

variable {key name : String}

/-- The name is a single part of a path that leads from any directory to a place right in it. -/
structure StaysInDirectory (name : String) : Prop where
  single : PathText.parts name = [name]
  inside : ∀ dir : Path, step dir name = dir ++ [name]
  noSeparator : '/' ∉ name.toList ∧ '\\' ∉ name.toList
  notAbove : name ≠ "." ∧ name ≠ ".."

/-- The name begins with a point, so it is not listed. -/
def IsHidden (name : String) : Prop := ['.'] <+: name.toList

/-- A character of a key is no separator. -/
theorem ne_separator_of_isKeyChar {c : Char} (h : isKeyChar c = true) : c ≠ '/' ∧ c ≠ '\\' := by
  constructor
  · rintro rfl
    exact absurd h (by decide)
  · rintro rfl
    exact absurd h (by decide)

/-- A name of characters of keys that is longer than two points is a single part of a path. -/
theorem staysInDirectory_of_forall (chars : ∀ c ∈ name.toList, isKeyChar c = true)
    (inside : ∀ dir : Path, step dir name = dir ++ [name]) : StaysInDirectory name where
  single := by
    have plain : '/' ∉ name.toList := fun mem => (ne_separator_of_isKeyChar (chars _ mem)).1 rfl
    rw [PathText.parts, splitAt_of_notMem plain, List.map_singleton, String.ofList_toList]
  inside := inside
  noSeparator := ⟨fun mem => (ne_separator_of_isKeyChar (chars _ mem)).1 rfl,
    fun mem => (ne_separator_of_isKeyChar (chars _ mem)).2 rfl⟩
  notAbove := by
    constructor
    · rintro rfl
      exact absurd (inside []) (by decide)
    · rintro rfl
      exact absurd (inside []) (by decide)

theorem fileName?_eq_ok_iff :
    fileName? key = .ok name ↔ isValidKey key = true ∧ name = fileName key := by
  rw [fileName?]
  split
  · next valid => simp [valid, eq_comm]
  · next rejected => simp [rejected]

theorem isKeyChar_of_mem_fileName (valid : isValidKey key = true) :
    ∀ c ∈ (fileName key).toList, isKeyChar c = true := by
  obtain ⟨-, chars, -⟩ := isValidKey_iff.1 valid
  rw [fileName, String.toList_append]
  exact List.forall_mem_append.2 ⟨chars, by decide⟩

theorem isKeyChar_of_mem_temporaryName (valid : isValidKey key = true) :
    ∀ c ∈ (temporaryName key).toList, isKeyChar c = true := by
  simp only [temporaryName, String.toList_append, List.forall_mem_append]
  exact ⟨⟨by decide, isKeyChar_of_mem_fileName valid⟩, by decide⟩

theorem not_isHidden_fileName (valid : isValidKey key = true) : ¬IsHidden (fileName key) := by
  obtain ⟨some_char, -, visible⟩ := isValidKey_iff.1 valid
  obtain ⟨c, rest, letters⟩ :=
    List.exists_cons_of_ne_nil (mt String.toList_eq_nil_iff.1 some_char)
  rw [letters, List.cons_prefix_cons] at visible
  rw [IsHidden, fileName, String.toList_append, letters, List.cons_append, List.cons_prefix_cons]
  exact fun hidden => visible ⟨hidden.1, List.nil_prefix⟩

/-- **Accepted keys have names of their own**: the entry and the temporary file of a key stay in the
directory, the entry is listed and the temporary file is not, and no other accepted key has either
name for a file of its own. -/
theorem keys_have_names_of_their_own (accepted : fileName? key = .ok name) :
    StaysInDirectory name ∧ ¬IsHidden name ∧ StaysInDirectory (temporaryName key) ∧
    ∀ other otherName, fileName? other = .ok otherName →
      temporaryName key ≠ otherName ∧
      (key ≠ other → name ≠ otherName ∧ temporaryName key ≠ temporaryName other) := by
  obtain ⟨valid, rfl⟩ := fileName?_eq_ok_iff.1 accepted
  refine ⟨staysInDirectory_of_forall (isKeyChar_of_mem_fileName valid) fun dir =>
      step_fileName dir key,
    not_isHidden_fileName valid,
    staysInDirectory_of_forall (isKeyChar_of_mem_temporaryName valid) fun dir =>
      step_temporaryName dir key,
    fun other otherName accepted' => ?_⟩
  obtain ⟨valid', rfl⟩ := fileName?_eq_ok_iff.1 accepted'
  exact ⟨temporaryName_ne_fileName valid' key, fun different =>
    ⟨fun same => different (fileName_injective same),
      fun same => different (temporaryName_injective same)⟩⟩

/-- A key that looks like the name of another key's file has files of its own all the same. -/
theorem keys_have_names_of_their_own_nested :
    fileName? "a" = .ok "a.json" ∧ fileName? "a.json" = .ok "a.json.json" ∧
    fileName? "a.json.tmp" = .ok "a.json.tmp.json" ∧ temporaryName "a" = ".a.json.tmp" ∧
    StaysInDirectory "a.json" ∧ ¬IsHidden "a.json" ∧
    temporaryName "a" ≠ "a.json.tmp.json" ∧ "a.json" ≠ "a.json.json" ∧
    temporaryName "a" ≠ temporaryName "a.json" := by
  have plain : fileName? "a" = .ok "a.json" :=
    fileName?_eq_ok_iff.2 ⟨isValidKey_iff.2 (by decide), by decide⟩
  have entry : fileName? "a.json" = .ok "a.json.json" :=
    fileName?_eq_ok_iff.2 ⟨isValidKey_iff.2 (by decide), by decide⟩
  have temporary : fileName? "a.json.tmp" = .ok "a.json.tmp.json" :=
    fileName?_eq_ok_iff.2 ⟨isValidKey_iff.2 (by decide), by decide⟩
  obtain ⟨stays, visible, -, apart⟩ := keys_have_names_of_their_own plain
  obtain ⟨-, different⟩ := apart _ _ entry
  exact ⟨plain, entry, temporary, by decide, stays, visible, (apart _ _ temporary).1,
    (different (by decide)).1, (different (by decide)).2⟩

end FileStore

end Subscription
