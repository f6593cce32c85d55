import Subscription.Proofs.Json.RoundTrip
import Subscription.Proofs.Json.Sorted
import Subscription.Proofs.Store.Operations

/-!
# Writes that are cut short

An entry is written in steps, and the machine may stop after any of them. Up to the last step
nothing but the temporary file is written, and no entry has its name; with the last step the entry
is there as a whole. So a write that is cut short has happened or has not
(`Shows.performAll_take`), whatever was done and cut short before it
(`FileStore.cut_write_whole_or_nothing`). A write that gets to its last step is a write like any
other (`FileStore.write_snd_eq_cutWrite`).
-/

namespace Subscription

namespace FileStore

open FileTree Store

variable {dir place : Path} {tree : FileTree} {contents : Contents} {key : String}

/-! ### Some of the steps -/

private theorem take_succ_stepsIn (chunks : List (List UInt8)) (count : Nat) :
    (stepsIn chunks).take (count + 1) =
      .create :: ((chunks ++ [Utf8.encode "\n"]).map Step.append ++ [Step.rename]).take count := rfl

/-- The first of the steps are none, or they write pieces to the temporary file, or they are all
steps. -/
theorem take_stepsIn (chunks : List (List UInt8)) (count : Nat) :
    (stepsIn chunks).take count = [] ∨
    (∃ pieces : List (List UInt8),
      (stepsIn chunks).take count = .create :: pieces.map .append) ∨
    (stepsIn chunks).take count = stepsIn chunks := by
  cases count with
  | zero => exact .inl rfl
  | succ count =>
    by_cases cut : count ≤ ((chunks ++ [Utf8.encode "\n"]).map Step.append).length
    · refine .inr (.inl ⟨(chunks ++ [Utf8.encode "\n"]).take count, ?_⟩)
      rw [take_succ_stepsIn, List.take_append_of_le_length cut, List.map_take]
    · refine .inr (.inr ?_)
      rw [take_succ_stepsIn, List.take_of_length_le]
      · rfl
      · rw [List.length_append, List.length_singleton]
        exact Nat.lt_of_not_le cut

/-- After some of the steps the entry is as before, or it is there as a whole. -/
theorem Shows.performAll_take (h : Shows dir place tree contents) (valid : isValidKey key = true)
    (chunks : List (List UInt8)) (count : Nat) :
    Shows dir place (performAll dir key ((stepsIn chunks).take count) tree).2 contents ∨
    (NameFits dir (temporaryName key) ∧
      Shows dir place (performAll dir key ((stepsIn chunks).take count) tree).2
        (Function.update contents key (some (chunks.flatten ++ Utf8.encode "\n")))) := by
  by_cases fits : NameFits dir (temporaryName key)
  · rcases take_stepsIn chunks count with none | ⟨pieces, some⟩ | all
    · rw [none]
      exact .inl h
    · obtain ⟨after, ran, shown, -⟩ := h.performAll_create valid fits pieces
      rw [some, ran]
      exact .inl shown
    · obtain ⟨after, ran, shown⟩ := h.performAll_stepsIn valid fits chunks
      rw [all, ran]
      exact .inr ⟨fits, shown⟩
  · refine .inl ?_
    cases count with
    | zero => exact h
    | succ count =>
      rw [take_succ_stepsIn, h.performAll_of_not_nameFits valid fits]
      exact h

/-! ### Cut writes -/

/-- The tree after a write of bytes in chunks that is cut short behind this many steps. -/
def cutWrite (dir : Path) (key : String) (chunks : List (List UInt8)) (count : Nat)
    (tree : FileTree) : FileTree :=
  match fileName? key with
  | .error _ => tree
  | .ok _ =>
    match tree.makeDirectories dir with
    | (.error _, tree) => tree
    | (.ok (), tree) => (performAll dir key ((stepsIn chunks).take count) tree).2

/-- A write that is not cut short performs all steps, with the bytes in one chunk. -/
theorem write_snd_eq_cutWrite (dir : Path) (key : String) (value : Json) (tree : FileTree) :
    (FileStore.write dir key value tree).2 =
      cutWrite dir key [Utf8.encode value.pretty] (steps value).length tree := by
  rw [cutWrite, ← steps_eq_stepsIn, List.take_length, FileStore.write]
  cases fileName? key with
  | error failure => rfl
  | ok name =>
    cases tree.makeDirectories dir with
    | mk made after => cases made <;> rfl

namespace Holds

/-- A write that is cut short leaves the entry as before, or it leaves it as a whole. -/
theorem cutWrite (h : Holds dir tree contents) (key : String) (chunks : List (List UInt8))
    (count : Nat) :
    (tree.isDirectory dir = true →
      (FileStore.cutWrite dir key chunks count tree).isDirectory dir = true) ∧
    (Holds dir (FileStore.cutWrite dir key chunks count tree) contents ∨
      (isValidKey key = true ∧ NameFits dir (temporaryName key) ∧
        Holds dir (FileStore.cutWrite dir key chunks count tree)
          (Function.update contents key (some (chunks.flatten ++ Utf8.encode "\n"))))) := by
  by_cases valid : isValidKey key = true
  · -- Directories are made before the first step, so a cut leaves some of the steps done in them.
    obtain ⟨place, made, makes, shown⟩ : ∃ place made,
        tree.makeDirectories dir = (.ok (), made) ∧ Shows dir place made contents := by
      cases h with
      | absent empty there => exact empty.shows
      | shows shown => exact ⟨_, tree, makeDirectories_of_isDirectory shown.isDirectory, shown⟩
    have steps : FileStore.cutWrite dir key chunks count tree =
        (performAll dir key ((stepsIn chunks).take count) made).2 := by
      simp only [FileStore.cutWrite, fileName?, if_pos valid, makes]
    rw [steps]
    rcases shown.performAll_take valid chunks count with kept | ⟨fits, written⟩
    · exact ⟨fun _ => kept.isDirectory, .inl (.shows kept)⟩
    · exact ⟨fun _ => written.isDirectory, .inr ⟨valid, fits, .shows written⟩⟩
  · have nothing : FileStore.cutWrite dir key chunks count tree = tree := by
      simp only [FileStore.cutWrite, fileName?, if_neg valid]
    rw [nothing]
    exact ⟨id, .inl h⟩

/-- A write that is not cut short leaves the entry as a whole. -/
theorem write (h : Holds dir tree contents) (valid : isValidKey key = true)
    (fits : NameFits dir (temporaryName key)) (value : Json) :
    Holds dir (FileStore.write dir key value tree).2
        (Function.update contents key (some (contentOf value))) ∧
      (tree.isDirectory dir = true →
        (FileStore.write dir key value tree).2.isDirectory dir = true) := by
  obtain ⟨after, given, whole, stays⟩ :=
    h.step_eq (.write key value) (.inr fun _ => nameFits_fileName fits)
  have reached : (FileStore.write dir key value tree).2 = after := congrArg Prod.snd given
  have shelved : ((Operation.write key value).step (shelf dir) contents).2 =
      Function.update contents key (some (contentOf value)) :=
    congrArg Prod.snd ((guarded_of_valid valid
      (.ok (), Function.update contents key (some (contentOf value)))).trans (if_pos fits))
  rw [reached, ← shelved]
  exact ⟨whole, stays⟩

/-! ### Reading afterwards -/

/-- What is read of an entry in a directory that holds what is on the shelf. -/
theorem read_eq (h : Holds dir tree contents) (named : Named dir tree key) :
    FileStore.read dir key tree =
      (guarded dir key (fileName key) contents (valueIn (contents key), contents)).1 := by
  obtain ⟨after, given, -⟩ := h.step_eq (.read key) named
  exact congrArg Prod.fst given

/-- A value that was written as a whole is read back. -/
theorem read_of_written {value : Json} (restorable : value.Restorable)
    (h : Holds dir tree (Function.update contents key (some (contentOf value))))
    (valid : isValidKey key = true) (fits : NameFits dir (temporaryName key)) :
    FileStore.read dir key tree = .ok (some value) := by
  have fits_entry := nameFits_fileName fits
  rw [h.read_eq (.inr fun _ => fits_entry), guarded_of_valid valid, if_pos fits_entry,
    Function.update_self, valueIn, contentOf, Json.read_pretty restorable]

/-- Of a change of one entry the others are read as before. -/
theorem read_of_ne {tree' : FileTree} (h : Holds dir tree contents) {content : Option (List UInt8)}
    (h' : Holds dir tree' (Function.update contents key content)) {other : String}
    (named : Named dir tree other) (named' : Named dir tree' other) (different : other ≠ key) :
    FileStore.read dir other tree' = FileStore.read dir other tree := by
  rw [h.read_eq named, h'.read_eq named', Function.update_of_ne different]
  exact guarded_fst _ _ _

end Holds

/-! ### Whatever happened before -/

/-- What may happen to a store: an operation, or a write that is cut short. -/
inductive Event where
  | use (operation : Operation)
  | cut (key : String) (chunks : List (List UInt8)) (count : Nat)

/-- The tree after an event. -/
def Event.after (dir : Path) (tree : FileTree) : Event → FileTree
  | .use operation => (operation.step (Store.files dir) tree).2
  | .cut key chunks count => FileStore.cutWrite dir key chunks count tree

/-- Whatever happens, the directory goes on to hold entries. -/
theorem Holds.after (h : Holds dir tree contents) (history : List Event) :
    ∃ contents, Holds dir (history.foldl (Event.after dir) tree) contents := by
  induction history generalizing tree contents with
  | nil => exact ⟨contents, h⟩
  | cons event history ih =>
    cases event with
    | use operation =>
      obtain ⟨contents, holds⟩ := h.step operation
      exact ih holds
    | cut key chunks count =>
      rcases (h.cutWrite key chunks count).2 with kept | ⟨-, -, written⟩
      · exact ih kept
      · exact ih written

/-- **A write that is cut short damages nothing.** Before it, operations were done in a directory
that was absent or empty, and writes were cut short. The bytes are written in chunks, and the write
is cut short behind some number of its steps. Then every other entry reads as before, and the entry
itself reads as before or as the whole new value. Whatever is done later gives what it gives without
the write, or else it gives what it gives after the write as a whole.

Where the directory is there before the write, this holds of all keys. Where the write makes it, it
holds of the keys whose name the file system can hold (`Named`): a name that is too long is noticed
only once the directory is there. -/
theorem cut_write_whole_or_nothing {dir : Path} {tree : FileTree} (empty : Empty dir tree)
    (history : List Event) (key : String) {value : Json} (restorable : value.Restorable)
    {chunks : List (List UInt8)} (written : chunks.flatten = Utf8.encode value.pretty)
    (count : Nat) :
    let before := history.foldl (Event.after dir) tree
    let cut := cutWrite dir key chunks count before
    let complete := (FileStore.write dir key value before).2
    (∀ other, Named dir before other →
      FileStore.read dir other cut = FileStore.read dir other before ∨
        (other = key ∧ FileStore.read dir other cut = .ok (some value))) ∧
    ((∀ later : List Operation, (∀ operation ∈ later, Named dir before operation.key) →
        (Operation.run (Store.files dir) later cut).1 =
          (Operation.run (Store.files dir) later before).1) ∨
      ∀ later : List Operation, (∀ operation ∈ later, Named dir before operation.key) →
        (Operation.run (Store.files dir) later cut).1 =
          (Operation.run (Store.files dir) later complete).1) := by
  intro before cut complete
  obtain ⟨contents, holds⟩ := empty.holds.after history
  obtain ⟨stays, cut_holds⟩ := holds.cutWrite key chunks count
  have named_cut {other : String} (named : Named dir before other) : Named dir cut other :=
    named.imp_left stays
  -- What was cut short left the entries as they were, or it had come as far as putting in the file.
  rcases cut_holds with kept | ⟨valid, fits, new⟩
  · refine ⟨fun other named => .inl ?_, .inl fun later named => ?_⟩
    · rw [kept.read_eq (named_cut named), holds.read_eq named]
    · rw [kept.run_eq fun operation mem => named_cut (named operation mem), holds.run_eq named]
  · rw [written, ← contentOf] at new
    obtain ⟨whole, stays_whole⟩ := holds.write valid fits value
    refine ⟨fun other named => ?_, .inr fun later named => ?_⟩
    · by_cases same : other = key
      · exact .inr ⟨same, same ▸ new.read_of_written restorable valid fits⟩
      · exact .inl (holds.read_of_ne new named (named_cut named) same)
    · rw [new.run_eq fun operation mem => named_cut (named operation mem),
        whole.run_eq fun operation mem => (named operation mem).imp_left stays_whole]

/-- A token was written, and then a write of the machine id was cut short. -/
def interrupted : List Event :=
  [.use (.write "machine-token" (.string "old")), .cut "machine-id" [Utf8.encode "\"m"] 2]

/-- The bytes of a new token, in two chunks. -/
def halves : List (List UInt8) :=
  [Utf8.encode "\"n", Utf8.encode "ew\""]

private theorem fileName?_token : fileName? "machine-token" = .ok "machine-token.json" :=
  if_pos (isValidKey_iff.2 (by decide))

private theorem fileName?_id : fileName? "machine-id" = .ok "machine-id.json" :=
  if_pos (isValidKey_iff.2 (by decide))

/-- The temporary file of the machine id is left over. -/
def interruptedTree : FileTree :=
  [(["lib", "contracts", ".machine-id.json.tmp"], .file (Utf8.encode "\"m")),
    (["lib", "contracts", "machine-token.json"], .file (Utf8.encode "\"old\"\n"))] ++ contractsTree

private theorem after_interrupted :
    interrupted.foldl (Event.after ["lib", "contracts"]) [] = interruptedTree := by
  change cutWrite ["lib", "contracts"] "machine-id" _ 2
    (FileStore.write ["lib", "contracts"] "machine-token" (.string "old") []).2 = interruptedTree
  have first : (FileStore.write ["lib", "contracts"] "machine-token" (.string "old") []).2 =
      interruptedTree.tail := by
    rw [FileStore.write, fileName?_token, makeDirectories_contracts]
    rfl
  rw [first, cutWrite, fileName?_id, makeDirectories_of_isDirectory (by rfl)]
  rfl

theorem cut_write_whole_or_nothing_halves :
    (Empty ["lib", "contracts"] [] ∧ (Json.string "new").Restorable ∧
      halves.flatten = Utf8.encode (Json.string "new").pretty) ∧
    let before := interrupted.foldl (Event.after ["lib", "contracts"]) []
    let cut := cutWrite ["lib", "contracts"] "machine-token" halves 2 before
    before = interruptedTree ∧
    (FileStore.read ["lib", "contracts"] "machine-token" cut = .ok (some (.string "old")) ∨
      FileStore.read ["lib", "contracts"] "machine-token" cut = .ok (some (.string "new"))) ∧
    FileStore.read ["lib", "contracts"] "machine-id" cut = .ok none := by
  have restorable : (Json.string "new").Restorable := ⟨by decide, trivial, by decide⟩
  have written : halves.flatten = Utf8.encode (Json.string "new").pretty := by decide
  obtain ⟨reads, -⟩ :=
    cut_write_whole_or_nothing empty_contracts interrupted "machine-token" restorable written 2
  rw [after_interrupted] at reads ⊢
  refine ⟨⟨empty_contracts, restorable, written⟩, rfl, ?_, ?_⟩
  · refine (reads "machine-token" (.inl (by rfl))).imp (fun same => same.trans ?_) And.right
    rw [FileStore.read, fileName?_token]
    rfl
  · rcases reads "machine-id" (.inl (by rfl)) with same | ⟨other, -⟩
    · rw [same, FileStore.read, fileName?_id]
      rfl
    · exact absurd other (by decide)

end FileStore

end Subscription
