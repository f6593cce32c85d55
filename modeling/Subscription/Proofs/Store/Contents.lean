import Mathlib.Logic.Function.Basic
import Subscription.Proofs.Files.Lookup
import Subscription.Store.File

/-!
# What the files of a store hold

All that matters of a directory to a store is the content of the files of its entries. So the store
of files is compared with one whose state is just that, `FileStore.shelf`: each operation on the
directory gives what it gives on the shelf, and leaves the directory with what is then on the shelf
(`Shows.read_eq`, `Shows.write_eq`, `Shows.delete_eq`). Temporary files do not matter: no entry has
the name of one.
-/

namespace Subscription

namespace FileStore

open FileTree

/-! ### Keys and names of files -/

/-- A key is valid if it has characters, each is one of a key, and the first is no point. -/
theorem isValidKey_iff {key : String} : isValidKey key = true ↔
    key ≠ "" ∧ (∀ c ∈ key.toList, isKeyChar c = true) ∧ ¬['.'] <+: key.toList := by
  simp only [isValidKey, Bool.and_eq_true, Bool.not_eq_true', String.startsWith_string_eq_false_iff,
    String.isEmpty_eq_false_iff, String.all_bool_eq, List.all_eq_true, and_assoc]
  rfl

/-- Different keys have different files. -/
theorem fileName_injective {key other : String} (h : fileName key = fileName other) :
    key = other := by
  simpa [fileName] using h

/-- Different keys have different temporary files. -/
theorem temporaryName_injective {key other : String}
    (h : temporaryName key = temporaryName other) : key = other := by
  simpa [temporaryName, fileName] using h

/-- Temporary files are hidden, and entries are not. -/
theorem temporaryName_ne_fileName {other : String} (valid : isValidKey other = true)
    (key : String) : temporaryName key ≠ fileName other := by
  intro same
  obtain ⟨some_key, -, visible⟩ := isValidKey_iff.1 valid
  have names := congrArg String.toList same
  simp only [temporaryName, fileName, String.toList_append] at names
  cases letters : other.toList with
  | nil => exact some_key (String.toList_eq_nil_iff.1 letters)
  | cons c rest =>
    rw [letters] at names visible
    have first : '.' = c := (List.cons.inj names).1
    exact visible (by simp [← first])

/-- A name that is long enough leads to a place of its own. -/
theorem step_of_length {name : String} (long : 2 < name.length) (place : Path) :
    step place name = place ++ [name] := by
  have other (short : String) (h : short.length ≤ 2) : name ≠ short := by
    rintro rfl
    exact absurd long (Nat.not_lt.2 h)
  simp [step, isIdle, other "" (by decide), other "." (by decide), other ".." (by decide)]

theorem step_fileName (place : Path) (key : String) :
    step place (fileName key) = place ++ [fileName key] := by
  refine step_of_length ?_ place
  rw [fileName, String.length_append]
  exact Nat.lt_of_lt_of_le (by decide : 2 < ".json".length) (Nat.le_add_left _ _)

theorem step_temporaryName (place : Path) (key : String) :
    step place (temporaryName key) = place ++ [temporaryName key] := by
  refine step_of_length ?_ place
  rw [temporaryName, String.length_append]
  exact Nat.lt_of_lt_of_le (by decide : 2 < ".tmp".length) (Nat.le_add_left _ _)

/-- If there is room for the name of the temporary file, there is for that of the entry. -/
theorem nameFits_fileName {dir : Path} {key : String} (h : NameFits dir (temporaryName key)) :
    NameFits dir (fileName key) := by
  have shorter : (fileName key).utf8ByteSize ≤ (temporaryName key).utf8ByteSize := by
    rw [temporaryName, String.utf8ByteSize_append, String.utf8ByteSize_append]
    omega
  exact ⟨Nat.le_trans (pathLength_append_le shorter dir) h.1, Nat.le_trans shorter h.2⟩

/-! ### The shelf -/

/-- The content of the file of each entry, where there is one. -/
abbrev Contents := String → Option (List UInt8)

/-- What is read of the content of a file. -/
def valueIn : Option (List UInt8) → Except StoreError (Option Json)
  | none => .ok none
  | some bytes =>
    match Json.read bytes with
    | .ok value => .ok (some value)
    | .error fault => .error (.malformed fault)

/-- The content of the file that a value is written to. -/
def contentOf (value : Json) : List UInt8 := Utf8.encode value.pretty ++ Utf8.encode "\n"

/-- What is done under a key, if the key is valid and there is room for the name. -/
def guarded {α : Type} (dir : Path) (key name : String) (contents : Contents)
    (done : Except StoreError α × Contents) : Except StoreError α × Contents :=
  if !isValidKey key then (.error (.invalidKey key), contents)
  else if NameFits dir name then done
  else (.error (.file .nameTooLong), contents)

/-- A key that is not valid is rejected, and nothing is done. -/
theorem guarded_of_not_valid {α : Type} {dir : Path} {key name : String} {contents : Contents}
    (h : ¬isValidKey key = true) (done : Except StoreError α × Contents) :
    guarded dir key name contents done = (.error (.invalidKey key), contents) := by
  rw [guarded, if_pos (by simp [h])]

theorem guarded_of_valid {α : Type} {dir : Path} {key name : String} {contents : Contents}
    (h : isValidKey key = true) (done : Except StoreError α × Contents) :
    guarded dir key name contents done =
      if NameFits dir name then done else (.error (.file .nameTooLong), contents) := by
  rw [guarded, if_neg (by simp [h])]

/-- What only looks at the shelf leaves it as it is. -/
theorem guarded_snd {α : Type} {dir : Path} {key name : String} {contents : Contents}
    (result : Except StoreError α) :
    (guarded dir key name contents (result, contents)).2 = contents := by
  unfold guarded
  split
  · rfl
  · split <;> rfl

/-- What is given does not depend on what else is on the shelf. -/
theorem guarded_fst {α : Type} {dir : Path} {key name : String} (result : Except StoreError α)
    (contents other : Contents) : (guarded dir key name contents (result, contents)).1 =
      (guarded dir key name other (result, other)).1 := by
  unfold guarded
  split
  · rfl
  · split <;> rfl

/-- The store whose state is the content of its files. -/
def shelf (dir : Path) : Store Contents where
  read key := Action.ofStep fun contents =>
    guarded dir key (fileName key) contents (valueIn (contents key), contents)
  write key value := Action.ofStep fun contents =>
    guarded dir key (temporaryName key) contents
      (.ok (), Function.update contents key (some (contentOf value)))
  delete key := Action.ofStep fun contents =>
    guarded dir key (fileName key) contents (.ok (), Function.update contents key none)

/-! ### Directories that show what is on the shelf -/

/-- The directory is there, and the files of its entries have this content. All files that entries
are read from or written to may be read and written. -/
structure Shows (dir place : Path) (tree : FileTree) (contents : Contents) : Prop where
  resolves : tree.resolve dir = .ok place
  stands : tree.node? place = some .directory
  entry : ∀ key, isValidKey key = true →
    tree.node? (place ++ [fileName key]) = (contents key).map fun bytes => .file bytes
  temporary : ∀ key, isValidKey key = true → tree.IsOpen (place ++ [temporaryName key])

namespace Shows

variable {dir place : Path} {tree tree' : FileTree} {contents : Contents} {key : String}

/-- The file of a key is where its directory is, if there is room for its name. -/
theorem resolve_fileName (h : Shows dir place tree contents) (key : String) :
    tree.resolve (dir ++ [fileName key]) =
      if NameFits dir (fileName key) then .ok (place ++ [fileName key])
      else .error .nameTooLong :=
  resolve_append_singleton h.resolves h.stands (step_fileName place key)

/-- The temporary file of a key is where its directory is, if there is room for its name. -/
theorem resolve_temporaryName (h : Shows dir place tree contents) (key : String) :
    tree.resolve (dir ++ [temporaryName key]) =
      if NameFits dir (temporaryName key) then .ok (place ++ [temporaryName key])
      else .error .nameTooLong :=
  resolve_append_singleton h.resolves h.stands (step_temporaryName place key)

/-- Of a change of what is no directory only the file itself is noticed. -/
theorem change (h : Shows dir place tree contents) {name : String}
    (file : tree.node? (place ++ [name]) ≠ some .directory)
    (others : ∀ p, place ++ [name] ≠ p → tree'.node? p = tree.node? p) :
    tree'.resolve dir = .ok place ∧ tree'.node? place = some .directory := by
  have kept (p : Path) (stands : tree.node? p = some .directory) :
      tree'.node? p = some .directory := by
    rw [others p fun same => file (same ▸ stands), stands]
  exact ⟨resolve_of_directories kept h.resolves, kept place h.stands⟩

/-- Temporary files are not noticed. -/
theorem change_temporary (h : Shows dir place tree contents) (valid : isValidKey key = true)
    (others : ∀ p, place ++ [temporaryName key] ≠ p → tree'.node? p = tree.node? p)
    (free : tree'.IsOpen (place ++ [temporaryName key])) : Shows dir place tree' contents := by
  obtain ⟨resolves, stands⟩ := h.change (h.temporary key valid).not_directory others
  refine ⟨resolves, stands, fun other valid' => ?_, fun other valid' => ?_⟩
  · rw [others _ ?_, h.entry other valid']
    simpa using temporaryName_ne_fileName valid' key
  · by_cases same : key = other
    · exact same ▸ free
    · refine (h.temporary other valid').congr (others _ ?_)
      simpa using fun names => same (temporaryName_injective names)

/-- The file of an entry is that of no other. -/
theorem change_entry (h : Shows dir place tree contents) (valid : isValidKey key = true)
    (others : ∀ p, place ++ [fileName key] ≠ p → tree'.node? p = tree.node? p)
    {content : Option (List UInt8)}
    (file : tree'.node? (place ++ [fileName key]) = content.map fun bytes => .file bytes) :
    Shows dir place tree' (Function.update contents key content) := by
  have before : tree.node? (place ++ [fileName key]) ≠ some .directory := by
    rw [h.entry key valid]
    cases contents key <;> simp
  obtain ⟨resolves, stands⟩ := h.change before others
  refine ⟨resolves, stands, fun other valid' => ?_, fun other valid' => ?_⟩
  · by_cases same : other = key
    · rw [same, file, Function.update_self]
    · rw [others _ ?_, h.entry other valid', Function.update_of_ne same]
      simpa using fun names => same (fileName_injective names).symm
  · refine (h.temporary other valid').congr (others _ ?_)
    simpa using (temporaryName_ne_fileName valid other).symm

/-! ### Writing in steps -/

/-- What is written to a temporary file is not noticed. -/
theorem put_temporary (h : Shows dir place tree contents) (valid : isValidKey key = true)
    (bytes : List UInt8) :
    Shows dir place (tree.put (place ++ [temporaryName key]) (.file bytes)) contents := by
  refine h.change_temporary valid (fun p other => ?_) ?_
  · rw [node?_put_append, if_neg other]
  · exact isOpen_of_bytes ((node?_put_append ..).trans (if_pos rfl))

/-- The temporary file is made, if there is room for its name. -/
theorem perform_create (h : Shows dir place tree contents) (valid : isValidKey key = true) :
    perform dir key tree .create =
      if NameFits dir (temporaryName key) then
        .ok (tree.put (place ++ [temporaryName key]) (.file { content := [] }))
      else .error .nameTooLong := by
  have found := h.resolve_temporaryName key
  split
  · next fits =>
    rw [if_pos fits] at found
    exact write_of_written found ((h.temporary key valid).written [])
  · next wide =>
    rw [if_neg wide] at found
    rw [perform, FileTree.write, found]
    rfl

/-- Pieces are added to the temporary file. -/
theorem performAll_appends (h : Shows dir place tree contents) (valid : isValidKey key = true)
    (fits : NameFits dir (temporaryName key)) {held : List UInt8}
    (holds : tree.node? (place ++ [temporaryName key]) = some (.file held))
    (pieces : List (List UInt8)) :
    ∃ after, performAll dir key (pieces.map .append) tree = (.ok (), after) ∧
      Shows dir place after contents ∧
      after.node? (place ++ [temporaryName key]) = some (.file (held ++ pieces.flatten)) := by
  induction pieces generalizing tree held with
  | nil => exact ⟨tree, rfl, h, by simpa using holds⟩
  | cons piece pieces ih =>
    have found := h.resolve_temporaryName key
    rw [if_pos fits] at found
    have step : perform dir key tree (.append piece) =
        .ok (tree.put (place ++ [temporaryName key]) (.file (held ++ piece))) :=
      append_of_resolve found holds piece
    obtain ⟨after, ran, shows_after, holds_after⟩ :=
      ih (h.put_temporary valid (held ++ piece)) ((node?_put_append ..).trans (if_pos rfl))
    refine ⟨after, ?_, shows_after, ?_⟩
    · rw [List.map_cons, performAll, step]
      exact ran
    · rw [holds_after, List.flatten_cons, List.append_assoc]

/-- The temporary file takes the place of the entry. -/
theorem perform_rename (h : Shows dir place tree contents) (valid : isValidKey key = true)
    (fits : NameFits dir (temporaryName key)) {held : List UInt8}
    (holds : tree.node? (place ++ [temporaryName key]) = some (.file held)) :
    ∃ after, perform dir key tree .rename = .ok after ∧
      Shows dir place after (Function.update contents key (some held)) := by
  have found := h.resolve_temporaryName key
  have found' := h.resolve_fileName key
  rw [if_pos fits] at found
  rw [if_pos (nameFits_fileName fits)] at found'
  have free : tree.node? (place ++ [fileName key]) ≠ some .directory := by
    rw [h.entry key valid]
    cases contents key <;> simp
  refine ⟨_, rename_of_resolve found holds found' free, ?_⟩
  have shown : Shows dir place (tree.put (place ++ [fileName key]) (.file held))
      (Function.update contents key (some held)) := by
    refine h.change_entry valid (fun p other => ?_) ?_
    · rw [node?_put_append, if_neg other]
    · rw [node?_put_append, if_pos rfl]
      rfl
  refine shown.change_temporary valid (fun p other => ?_) ?_
  · rw [node?_drop_append, if_neg other]
  · exact isOpen_of_none ((node?_drop_append ..).trans (if_pos rfl))

end Shows

/-- The steps in which bytes are written, cut into chunks, with a line break behind them. -/
def stepsIn (chunks : List (List UInt8)) : List Step :=
  .create :: (chunks ++ [Utf8.encode "\n"]).map .append ++ [.rename]

theorem steps_eq_stepsIn (value : Json) : steps value = stepsIn [Utf8.encode value.pretty] := rfl

/-- After steps that succeed the others are performed, and after a failure none. -/
theorem performAll_append (dir : Path) (key : String) (first second : List Step)
    (tree : FileTree) : performAll dir key (first ++ second) tree =
      match performAll dir key first tree with
      | (.ok (), tree) => performAll dir key second tree
      | (.error cause, tree) => (.error cause, tree) := by
  induction first generalizing tree with
  | nil => rfl
  | cons step first ih =>
    rw [List.cons_append, performAll, performAll]
    cases perform dir key tree step with
    | ok tree => exact ih tree
    | error cause => rfl

namespace Shows

variable {dir place : Path} {tree tree' : FileTree} {contents : Contents} {key : String}

/-- Up to the last step only the temporary file is written. -/
theorem performAll_create (h : Shows dir place tree contents) (valid : isValidKey key = true)
    (fits : NameFits dir (temporaryName key)) (pieces : List (List UInt8)) :
    ∃ after, performAll dir key (.create :: pieces.map .append) tree = (.ok (), after) ∧
      Shows dir place after contents ∧
      after.node? (place ++ [temporaryName key]) = some (.file pieces.flatten) := by
  have holds := node?_put_append tree place (temporaryName key) (.file { content := [] })
    (place ++ [temporaryName key])
  rw [if_pos rfl] at holds
  have emptied := h.put_temporary valid []
  obtain ⟨after, ran, shown⟩ := emptied.performAll_appends valid fits holds pieces
  refine ⟨after, ?_, shown⟩
  rw [performAll, h.perform_create valid, if_pos fits]
  exact ran

/-- All steps put the bytes in the place of the entry, if there is room for the name of the
temporary file. -/
theorem performAll_stepsIn (h : Shows dir place tree contents) (valid : isValidKey key = true)
    (fits : NameFits dir (temporaryName key)) (chunks : List (List UInt8)) :
    ∃ after, performAll dir key (stepsIn chunks) tree = (.ok (), after) ∧
      Shows dir place after
        (Function.update contents key (some (chunks.flatten ++ Utf8.encode "\n"))) := by
  obtain ⟨written, ran, shown, holds⟩ :=
    h.performAll_create valid fits (chunks ++ [Utf8.encode "\n"])
  obtain ⟨after, renamed, shown⟩ := shown.perform_rename valid fits holds
  refine ⟨after, ?_, by simpa using shown⟩
  rw [stepsIn, performAll_append, ran]
  simp only [performAll, renamed]

/-- Without room for the name of the temporary file nothing is done. -/
theorem performAll_of_not_nameFits (h : Shows dir place tree contents)
    (valid : isValidKey key = true) (wide : ¬NameFits dir (temporaryName key))
    (steps : List Step) :
    performAll dir key (.create :: steps) tree = (.error .nameTooLong, tree) := by
  rw [performAll, h.perform_create valid, if_neg wide]

/-! ### Operations -/

/-- An entry is read as it is on the shelf. -/
theorem read_eq (h : Shows dir place tree contents) (key : String) :
    FileStore.read dir key tree =
      (guarded dir key (fileName key) contents (valueIn (contents key), contents)).1 := by
  by_cases valid : isValidKey key = true
  · have found := h.resolve_fileName key
    rw [guarded_of_valid valid, FileStore.read, fileName?, if_pos valid]
    simp only [bind, Except.bind]
    by_cases fits : NameFits dir (fileName key)
    · rw [if_pos fits] at found ⊢
      rw [read_of_resolve found, fileAt, h.entry key valid]
      cases contents key with
      | none => rfl
      | some bytes => rfl
    · rw [if_neg fits] at found ⊢
      rw [FileTree.read, found]
      rfl
  · rw [guarded_of_not_valid valid, FileStore.read, fileName?, if_neg valid]
    rfl

/-- An entry is written as it is on the shelf. -/
theorem write_eq (h : Shows dir place tree contents) (key : String) (value : Json) :
    ∃ after, FileStore.write dir key value tree =
        ((guarded dir key (temporaryName key) contents
          (.ok (), Function.update contents key (some (contentOf value)))).1, after) ∧
      Shows dir place after (guarded dir key (temporaryName key) contents
        ((.ok () : Except StoreError Unit),
          Function.update contents key (some (contentOf value)))).2 := by
  by_cases valid : isValidKey key = true
  · have there : tree.isDirectory dir = true := isDirectory_iff.2 ⟨place, h.resolves, h.stands⟩
    simp only [guarded_of_valid valid, FileStore.write, fileName?, if_pos valid,
      makeDirectories_of_isDirectory there]
    split
    · next fits =>
      obtain ⟨after, ran, shown⟩ := h.performAll_stepsIn valid fits [Utf8.encode value.pretty]
      refine ⟨after, ?_, by simpa [contentOf] using shown⟩
      rw [steps_eq_stepsIn, ran]
      rfl
    · next wide =>
      refine ⟨tree, ?_, h⟩
      have failed := h.performAll_of_not_nameFits valid wide
        (([Utf8.encode value.pretty] ++ [Utf8.encode "\n"]).map .append ++ [.rename])
      rw [steps_eq_stepsIn, stepsIn, List.cons_append, failed]
      rfl
  · simp only [guarded_of_not_valid valid, FileStore.write, fileName?, if_neg valid]
    exact ⟨tree, rfl, h⟩

/-- An entry is removed as it is on the shelf. -/
theorem delete_eq (h : Shows dir place tree contents) (key : String) :
    ∃ after, FileStore.delete dir key tree =
        ((guarded dir key (fileName key) contents
          (.ok (), Function.update contents key none)).1, after) ∧
      Shows dir place after (guarded dir key (fileName key) contents
        ((.ok () : Except StoreError Unit), Function.update contents key none)).2 := by
  by_cases valid : isValidKey key = true
  · have found := h.resolve_fileName key
    simp only [guarded_of_valid valid, FileStore.delete, fileName?, if_pos valid]
    by_cases fits : NameFits dir (fileName key)
    · simp only [if_pos fits] at found ⊢
      rw [remove_of_resolve found, fileAt, h.entry key valid]
      cases there : contents key with
      | none =>
        have same : Function.update contents key none = contents := by
          rw [← there, Function.update_eq_self]
        rw [same]
        exact ⟨tree, rfl, h⟩
      | some bytes =>
        refine ⟨tree.drop (place ++ [fileName key]), rfl, ?_⟩
        refine h.change_entry valid (fun p other => ?_) ?_
        · rw [node?_drop_append, if_neg other]
        · rw [node?_drop_append, if_pos rfl]
          rfl
    · simp only [if_neg fits] at found ⊢
      rw [FileTree.remove, found]
      exact ⟨tree, rfl, h⟩
  · simp only [guarded_of_not_valid valid, FileStore.delete, fileName?, if_neg valid]
    exact ⟨tree, rfl, h⟩

end Shows

end FileStore

end Subscription
