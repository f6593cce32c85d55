import Subscription.Proofs.Store.Contents

/-!
# Operations one after another

What a directory holds follows the shelf operation by operation: `FileStore.Holds.step_eq` is the
step and `FileStore.Holds.run_eq` the run. The directory may be absent at first. Then it is made by
the first entry that is written, and until then nothing is found in it. A drawer is a shelf with
room for every name: the directory follows it too, except where a name is too long
(`FileStore.Holds.step_drawer`).
-/

namespace Subscription

/-! ### Uses of a store -/

namespace Store

variable {σ : Type}

/-- One use of a store. -/
inductive Operation where
  | read (key : String)
  | write (key : String) (value : Json)
  | delete (key : String)

/-- What an operation gives: the entry that was read, if there is one. -/
abbrev Outcome := Except StoreError (Option Json)

namespace Operation

/-- The key of the entry that is used. -/
def key : Operation → String
  | read key | write key _ | delete key => key

/-- What is given by an operation that reads nothing. -/
def done (result : Except StoreError Unit × σ) : Outcome × σ :=
  (result.1.map fun () => none, result.2)

/-- What the operation gives, and the state it leaves. -/
def step (store : Store σ) : Operation → σ → Outcome × σ
  | read key, state => (store.read key).perform state
  | write key value, state => done ((store.write key value).perform state)
  | delete key, state => done ((store.delete key).perform state)

/-- What the operations give one after another, and the state they leave. -/
def run (store : Store σ) : List Operation → σ → List Outcome × σ
  | [], state => ([], state)
  | operation :: rest, state =>
    let (outcome, state) := operation.step store state
    let (outcomes, state) := run store rest state
    (outcome :: outcomes, state)

theorem run_cons (store : Store σ) (operation : Operation) (rest : List Operation) (state : σ) :
    (run store (operation :: rest) state).1 =
      (operation.step store state).1 :: (run store rest (operation.step store state).2).1 := rfl

end Operation

end Store

namespace FileStore

open FileTree Store

variable {dir place : Path} {tree made : FileTree} {contents : Contents} {key : String}

/-! ### Directories that are there -/

theorem Shows.isDirectory (h : Shows dir place tree contents) : tree.isDirectory dir = true :=
  isDirectory_iff.2 ⟨place, h.resolves, h.stands⟩

/-- What is done in a directory that is there is done on the shelf. -/
theorem Shows.step (h : Shows dir place tree contents) (operation : Operation) :
    ∃ after, operation.step (Store.files dir) tree =
        ((operation.step (shelf dir) contents).1, after) ∧
      Shows dir place after (operation.step (shelf dir) contents).2 := by
  cases operation with
  | read key =>
    refine ⟨tree, congrArg (·, tree) (h.read_eq key), ?_⟩
    change Shows dir place tree (guarded dir key (fileName key) contents _).2
    rwa [guarded_snd]
  | write key value =>
    obtain ⟨after, written, shown⟩ := h.write_eq key value
    exact ⟨after, congrArg Operation.done written, shown⟩
  | delete key =>
    obtain ⟨after, deleted, shown⟩ := h.delete_eq key
    exact ⟨after, congrArg Operation.done deleted, shown⟩

/-! ### Keys that are rejected -/

/-- A rejected key is reported, and nothing is done. -/
theorem step_of_not_valid (operation : Operation) (h : isValidKey operation.key = false)
    (tree : FileTree) :
    operation.step (Store.files dir) tree = (.error (.invalidKey operation.key), tree) := by
  have rejected : fileName? operation.key = .error (.invalidKey operation.key) := by
    rw [fileName?, if_neg (by simp [h])]
  cases operation with
  | read key =>
    change (FileStore.read dir key tree, tree) = _
    rw [FileStore.read, show fileName? key = _ from rejected]
    rfl
  | write key value =>
    have nothing : FileStore.write dir key value tree = (.error (.invalidKey key), tree) := by
      rw [FileStore.write, show fileName? key = _ from rejected]
      rfl
    exact congrArg Operation.done nothing
  | delete key =>
    have nothing : FileStore.delete dir key tree = (.error (.invalidKey key), tree) := by
      rw [FileStore.delete, show fileName? key = _ from rejected]
      rfl
    exact congrArg Operation.done nothing

/-- An operation on a key that names no file is rejected, and nothing is touched. -/
theorem shelf_step_of_not_valid (operation : Operation) (h : isValidKey operation.key = false)
    (contents : Contents) :
    operation.step (shelf dir) contents = (.error (.invalidKey operation.key), contents) := by
  have rejected : ¬isValidKey operation.key = true := by simp [h]
  cases operation with
  | read key => exact guarded_of_not_valid rejected _
  | write key value => exact congrArg Operation.done (guarded_of_not_valid rejected _)
  | delete key => exact congrArg Operation.done (guarded_of_not_valid rejected _)

/-! ### Directories that are yet to be made -/

/-- The directory is absent or empty: it can be made, and nothing stands in it then. -/
def Empty (dir : Path) (tree : FileTree) : Prop :=
  ∃ place made, tree.makeDirectories dir = (.ok (), made) ∧ made.resolve dir = .ok place ∧
    ∀ name, made.node? (place ++ [name]) = none

/-- The tree with nothing but the directory. -/
def contractsTree : FileTree := [(["lib", "contracts"], .directory), (["lib"], .directory)]

theorem makeDirectories_contracts :
    FileTree.makeDirectories [] ["lib", "contracts"] = (.ok (), contractsTree) := by
  have missing : FileTree.makeDirectory [] ["lib", "contracts"] = .error .notFound := rfl
  have aboveIt : above ["lib", "contracts"] = ["lib"] := by decide
  have outer : FileTree.makeDirectories [] ["lib"] = (.ok (), [(["lib"], .directory)]) := by
    rw [makeDirectories, if_neg (List.cons_ne_nil _ _)]
    rfl
  rw [makeDirectories, if_neg (List.cons_ne_nil _ _), missing, aboveIt, outer]
  rfl

/-- In a tree without files a directory is yet to be made, with the one above it. -/
theorem empty_contracts : Empty ["lib", "contracts"] [] :=
  ⟨["lib", "contracts"], contractsTree, makeDirectories_contracts, rfl,
    fun name => by simp [contractsTree, node?, held?]⟩

namespace Empty

/-- Once the directory is made, it shows that nothing is on the shelf. -/
theorem shows (h : Empty dir tree) : ∃ place made,
    tree.makeDirectories dir = (.ok (), made) ∧ Shows dir place made fun _ => none := by
  obtain ⟨place, made, makes, found, nothing⟩ := h
  obtain ⟨there, -⟩ := makeDirectories_eq_ok makes
  obtain ⟨place', found', stands⟩ := isDirectory_iff.1 there
  obtain rfl : place' = place := Except.ok.inj (found'.symm.trans found)
  exact ⟨place', made, makes, found, stands, fun key _ => nothing _,
    fun key _ => isOpen_of_none (nothing _)⟩

/-- In a directory that is yet to be made nothing is found. -/
theorem resolve (h : Empty dir tree) (absent : tree.isDirectory dir = false) (name : String) :
    tree.resolve (dir ++ [name]) =
      .error (if longestPath < pathLength (dir ++ [name]) then .nameTooLong else .notFound) := by
  obtain ⟨place, made, makes, shown⟩ := h.shows
  obtain ⟨-, grown⟩ := makeDirectories_eq_ok makes
  obtain ⟨short, found⟩ := resolve_eq_ok.1 shown.resolves
  have missing : tree.resolveFrom [] (dir ++ [name]) = .error .notFound := by
    rw [resolveFrom_append]
    rcases grown.resolveFrom_eq found with here | missing
    · rw [here]
      cases stands : tree.node? place with
      | none => simp [Except.bind, resolveFrom, stands]
      | some node =>
        -- What stands there would stand there afterwards as well, and that is the directory.
        obtain rfl := Option.some.inj ((grown place node stands).symm.trans shown.stands)
        have there := isDirectory_iff.2 ⟨place, resolve_eq_ok.2 ⟨short, here⟩, stands⟩
        cases absent.symm.trans there
    · rw [missing]
      rfl
  rw [FileTree.resolve, missing]
  split <;> rfl

/-- To write an entry begins with making the directory. Without an entry in it, every other use
gives that there is none, or that the path to it is too long. -/
theorem step_cases (h : Empty dir tree) (absent : tree.isDirectory dir = false)
    {operation : Operation} (valid : isValidKey operation.key = true) :
    (∃ place after, operation.step (Store.files dir) tree =
        ((operation.step (shelf dir) fun _ => none).1, after) ∧
      Shows dir place after (operation.step (shelf dir) fun _ => none).2) ∨
    ((∀ value, operation ≠ .write operation.key value) ∧
      operation.step (Store.files dir) tree =
        (if longestPath < pathLength (dir ++ [fileName operation.key]) then
          .error (.file .nameTooLong) else .ok none, tree)) := by
  cases operation with
  | read key =>
    have missing := h.resolve absent (fileName key)
    refine .inr ⟨fun value => by simp, ?_⟩
    change (FileStore.read dir key tree, tree) =
      (if longestPath < pathLength (dir ++ [fileName key]) then _ else _, tree)
    rw [FileStore.read, fileName?, if_pos (show isValidKey key = true from valid)]
    simp only [bind, Except.bind, FileTree.read, missing]
    by_cases long : longestPath < pathLength (dir ++ [fileName key])
    · simp only [if_pos long]
    · simp only [if_neg long]
  | write key value =>
    -- Only a write makes the directory. From there on it is as if it had been there.
    obtain ⟨place, made, makes, shown⟩ := h.shows
    obtain ⟨after, written, shown_after⟩ := shown.write_eq key value
    refine .inl ⟨place, after, Eq.trans ?_ (congrArg Operation.done written), shown_after⟩
    change Operation.done (FileStore.write dir key value tree) =
      Operation.done (FileStore.write dir key value made)
    simp only [FileStore.write, fileName?, if_pos (show isValidKey key = true from valid), makes,
      makeDirectories_of_isDirectory shown.isDirectory]
  | delete key =>
    have missing := h.resolve absent (fileName key)
    refine .inr ⟨fun value => by simp, ?_⟩
    change Operation.done (FileStore.delete dir key tree) =
      (if longestPath < pathLength (dir ++ [fileName key]) then _ else _, tree)
    rw [FileStore.delete, fileName?, if_pos (show isValidKey key = true from valid)]
    simp only [bind, Except.bind, FileTree.remove, missing]
    by_cases long : longestPath < pathLength (dir ++ [fileName key])
    · simp only [if_pos long]
      rfl
    · simp only [if_neg long]
      rfl

end Empty

/-- With nothing on the shelf, every use but writing gives that there is no entry. -/
theorem shelf_step_nothing {operation : Operation} (valid : isValidKey operation.key = true)
    (other : ∀ value, operation ≠ .write operation.key value)
    (fits : NameFits dir (fileName operation.key)) :
    operation.step (shelf dir) (fun _ => none) = (.ok none, fun _ => none) := by
  have nothing (key : String) : Function.update (fun _ => none : Contents) key none =
      fun _ => none := Function.update_eq_self key _
  cases operation with
  | read key => exact (guarded_of_valid valid _).trans (if_pos fits)
  | write key value => exact (other value rfl).elim
  | delete key =>
    refine congrArg Operation.done ((guarded_of_valid valid _).trans (if_pos fits)) |>.trans ?_
    rw [Operation.done, nothing]
    rfl

/-! ### A drawer with room for every name -/

/-- The shelf, but with room for every name and under any key. -/
def drawer : Store Contents where
  read key := Action.ofStep fun contents => (valueIn (contents key), contents)
  write key value := Action.ofStep fun contents =>
    (.ok (), Function.update contents key (some (contentOf value)))
  delete key := Action.ofStep fun contents => (.ok (), Function.update contents key none)

/-- On the shelf there may be no room for a name. -/
theorem shelf_step_cases (contents : Contents) {operation : Operation}
    (valid : isValidKey operation.key = true) :
    (operation.step (shelf dir) contents = (.error (.file .nameTooLong), contents) ∧
      ¬NameFits dir (temporaryName operation.key)) ∨
    operation.step (shelf dir) contents = operation.step drawer contents := by
  cases operation with
  | read key =>
    have guards : (Operation.read key).step (shelf dir) contents = _ :=
      guarded_of_valid valid (valueIn (contents key), contents)
    rw [guards]
    split
    · exact .inr rfl
    · next wide => exact .inl ⟨rfl, fun fits => wide (nameFits_fileName fits)⟩
  | write key value =>
    have guards : (Operation.write key value).step (shelf dir) contents = Operation.done _ :=
      congrArg Operation.done (guarded_of_valid valid
        (.ok (), Function.update contents key (some (contentOf value))))
    rw [guards]
    split
    · exact .inr rfl
    · next wide => exact .inl ⟨rfl, wide⟩
  | delete key =>
    have guards : (Operation.delete key).step (shelf dir) contents = Operation.done _ :=
      congrArg Operation.done (guarded_of_valid valid
        (.ok (), Function.update contents key none))
    rw [guards]
    split
    · exact .inr rfl
    · next wide => exact .inl ⟨rfl, fun fits => wide (nameFits_fileName fits)⟩

/-- In an empty drawer every use but writing finds nothing and leaves nothing. -/
theorem drawer_step_nothing {operation : Operation}
    (other : ∀ value, operation ≠ .write operation.key value) :
    operation.step drawer (fun _ => none) = (.ok none, fun _ => none) := by
  cases operation with
  | read key => rfl
  | write key value => exact (other value rfl).elim
  | delete key => exact congrArg (Prod.mk _) (Function.update_eq_self key _)

/-! ### The directory follows the shelf -/

/-- The directory holds what is on the shelf. If that is nothing, it may be yet to be made. -/
inductive Holds (dir : Path) (tree : FileTree) : Contents → Prop
  | absent : Empty dir tree → tree.isDirectory dir = false → Holds dir tree fun _ => none
  | shows {place : Path} {contents : Contents} : Shows dir place tree contents →
      Holds dir tree contents

/-- An absent or empty directory holds nothing. -/
theorem Empty.holds (h : Empty dir tree) : Holds dir tree fun _ => none := by
  cases there : tree.isDirectory dir with
  | false => exact .absent h there
  | true =>
    obtain ⟨place, made, makes, shown⟩ := h.shows
    rw [makeDirectories_of_isDirectory there] at makes
    obtain ⟨-, rfl⟩ := Prod.mk.inj makes
    exact .shows shown

/-- Whether a key can be looked up. A name that is too long is noticed only once the directory is
there. -/
def Named (dir : Path) (tree : FileTree) (key : String) : Prop :=
  tree.isDirectory dir = true ∨ (isValidKey key = true → NameFits dir (fileName key))

namespace Holds

/-- What is done in the directory is done in the drawer, unless there is no room for the name of the
file: then the store says so, and nothing is done. -/
theorem step_drawer (h : Holds dir tree contents) {operation : Operation}
    (valid : isValidKey operation.key = true) :
    ∃ after, (operation.step (Store.files dir) tree = (.error (.file .nameTooLong), after) ∧
        Holds dir after contents ∧ ¬NameFits dir (temporaryName operation.key)) ∨
      (operation.step (Store.files dir) tree = ((operation.step drawer contents).1, after) ∧
        Holds dir after (operation.step drawer contents).2) := by
  have shelved : _ ∨ operation.step (shelf dir) contents = _ := shelf_step_cases contents valid
  -- Without the directory a write makes it first, and the other uses go no further than the path.
  cases h with
  | absent empty there =>
    rcases empty.step_cases there valid with ⟨place, after, given, shown⟩ | ⟨other, given⟩
    · refine ⟨after, ?_⟩
      rw [given]
      rcases shelved with ⟨same, wide⟩ | same
      · rw [same] at shown ⊢
        exact .inl ⟨rfl, .shows shown, wide⟩
      · rw [same] at shown ⊢
        exact .inr ⟨rfl, .shows shown⟩
    · refine ⟨tree, ?_⟩
      rw [given]
      split
      · next long =>
        exact .inl ⟨rfl, .absent empty there,
          fun fits => Nat.not_le.2 long (nameFits_fileName fits).1⟩
      · rw [drawer_step_nothing other]
        exact .inr ⟨rfl, .absent empty there⟩
  | shows shown =>
    obtain ⟨after, given, shown_after⟩ := shown.step operation
    refine ⟨after, ?_⟩
    rw [given]
    rcases shelved with ⟨same, wide⟩ | same
    · rw [same] at shown_after ⊢
      exact .inl ⟨rfl, .shows shown_after, wide⟩
    · rw [same] at shown_after ⊢
      exact .inr ⟨rfl, .shows shown_after⟩

/-- Whatever is done, the directory goes on to hold entries. -/
theorem step (h : Holds dir tree contents) (operation : Operation) :
    ∃ contents, Holds dir (operation.step (Store.files dir) tree).2 contents := by
  cases valid : isValidKey operation.key with
  | false => exact ⟨contents, by rwa [step_of_not_valid operation valid]⟩
  | true =>
    obtain ⟨after, ⟨given, holds, -⟩ | ⟨given, holds⟩⟩ := h.step_drawer valid
    · rw [given]
      exact ⟨_, holds⟩
    · rw [given]
      exact ⟨_, holds⟩

/-- What is done in the directory is done on the shelf. -/
theorem step_eq (h : Holds dir tree contents) (operation : Operation)
    (named : Named dir tree operation.key) :
    ∃ after, operation.step (Store.files dir) tree =
        ((operation.step (shelf dir) contents).1, after) ∧
      Holds dir after (operation.step (shelf dir) contents).2 ∧
      (tree.isDirectory dir = true → after.isDirectory dir = true) := by
  cases valid : isValidKey operation.key with
  | false =>
    rw [step_of_not_valid operation valid, shelf_step_of_not_valid operation valid]
    exact ⟨tree, rfl, h, id⟩
  | true =>
    cases h with
    | absent empty there =>
      rcases empty.step_cases there valid with ⟨place, after, given, shown⟩ | ⟨other, given⟩
      · exact ⟨after, given, .shows shown, fun _ => shown.isDirectory⟩
      · have fits : NameFits dir (fileName operation.key) := by
          rcases named with present | fits
          · cases there.symm.trans present
          · exact fits valid
        rw [given, if_neg (Nat.not_lt.2 fits.1), shelf_step_nothing valid other fits]
        exact ⟨tree, rfl, .absent empty there, id⟩
    | shows shown =>
      obtain ⟨after, given, shown_after⟩ := shown.step operation
      exact ⟨after, given, .shows shown_after, fun _ => shown_after.isDirectory⟩

/-- What is done in the directory, operation by operation, is done on the shelf. -/
theorem run_eq (h : Holds dir tree contents) {operations : List Operation}
    (named : ∀ operation ∈ operations, Named dir tree operation.key) :
    (Operation.run (Store.files dir) operations tree).1 =
      (Operation.run (shelf dir) operations contents).1 := by
  induction operations generalizing tree contents with
  | nil => rfl
  | cons operation rest ih =>
    obtain ⟨first, later⟩ := List.forall_mem_cons.1 named
    obtain ⟨after, given, holds, stays⟩ := h.step_eq operation first
    rw [Operation.run_cons, Operation.run_cons, given]
    rw [ih holds fun operation mem => (later operation mem).imp_left stays]

end Holds

end FileStore

end Subscription
