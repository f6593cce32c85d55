import Subscription.Proofs.Keyed
import Subscription.Proofs.Store.Refinement

/-!
# Stores that may fail

What is said here of a store is said by way of the entries that its states hold, which may be any
relation between the two. A store that `Spares` its entries may fail whenever it is used, but then
it changes nothing, and one that is `Faithful` also keeps what it was told to keep. A store that
`Works` may still fail to keep the access record of a resource; the machine token and the machine id
it always keeps. The store in memory works (`Store.works_memory`), and so does a store of files in a
directory of its own (`Store.works_files`), where the names of some files can be too long.
-/

namespace Subscription

variable {σ : Type}

namespace Store

/-- Entries by their keys. -/
abbrev Entries := String → Option Json

/-- To look at an entry and to fail to remove one change nothing. -/
structure Spares (store : Store σ) (holds : σ → Entries → Prop) : Prop where
  read : ∀ {state entries} key, holds state entries →
    holds ((store.read key).perform state).2 entries
  found : ∀ {state entries key value}, holds state entries →
    ((store.read key).perform state).1 = .ok value → value = entries key
  removed : ∀ {state entries key}, holds state entries →
    ((store.delete key).perform state).1 = .ok () →
    holds ((store.delete key).perform state).2 (Function.update entries key none)
  unremoved : ∀ {state entries key cause}, holds state entries →
    ((store.delete key).perform state).1 = .error cause →
    holds ((store.delete key).perform state).2 entries

/-! ### Removing entries -/

section Removing

variable {store : Store σ} {holds : σ → Entries → Prop}

/-- The store rejects the key, in a state where this is the entry under it. -/
def Rejects (store : Store σ) (holds : σ → Entries → Prop) (key : String) (entry : Option Json) :
    Prop :=
  ∃ state entries rejected, holds state entries ∧ entries key = entry ∧
    ((store.delete key).perform state).1 = .error (.invalidKey rejected)

/-- None of the entries under these keys is left, but for those whose key is rejected. All other
entries are as they were. -/
structure Removes (store : Store σ) (holds : σ → Entries → Prop) (keys : String → Prop)
    (entries left : Entries) : Prop where
  gone : ∀ key, keys key → left key = none ∨
    (store.Rejects holds key (entries key) ∧ left key = entries key)
  others : ∀ key, ¬keys key → left key = entries key

namespace Removes

variable {keys later : String → Prop} {entries between left : Entries} {key : String}

theorem nothing (entries : Entries) : store.Removes holds (fun _ => False) entries entries :=
  ⟨fun _ contrary => contrary.elim, fun _ _ => rfl⟩

theorem one (entries : Entries) (key : String) :
    store.Removes holds (· = key) entries (Function.update entries key none) where
  gone other same := .inl (by rw [same, Function.update_self])
  others other different := Function.update_of_ne different _ _

/-- Where the key is rejected its entry may be left. -/
theorem rejected {entries : Entries} (h : store.Rejects holds key (entries key)) :
    store.Removes holds (· = key) entries entries where
  gone _ same := .inr ⟨same ▸ h, rfl⟩
  others _ _ := rfl

/-- Some entries are removed first and others later. -/
theorem trans (first : store.Removes holds keys entries between)
    (second : store.Removes holds later between left) :
    store.Removes holds (fun key => keys key ∨ later key) entries left where
  gone key mem := by
    by_cases again : later key
    · rcases second.gone key again with none | ⟨rejected, kept⟩
      · exact .inl none
      · by_cases before : keys key
        · exact (first.gone key before).imp kept.trans fun ⟨rejected, same⟩ =>
            ⟨rejected, kept.trans same⟩
        · have same := first.others key before
          exact .inr ⟨same ▸ rejected, kept.trans same⟩
    · have kept := second.others key again
      exact (first.gone key (mem.resolve_right again)).imp kept.trans fun ⟨rejected, same⟩ =>
        ⟨rejected, kept.trans same⟩
  others key different := by
    rw [not_or] at different
    rw [second.others key different.2, first.others key different.1]

end Removes

end Removing

/-! ### Stores that do as they are told -/

/-- What is written is there and what is removed is gone, or else nothing was changed. A value is
found again as it was if it is among those that can be restored. No entry has a key that is
rejected. -/
structure Faithful (store : Store σ) (holds : σ → Entries → Prop) : Prop extends
    store.Spares holds where
  written : ∀ {state entries key value}, holds state entries →
    ((store.write key value).perform state).1 = .ok () →
    ∃ shown, holds ((store.write key value).perform state).2 (Function.update entries key shown) ∧
      (value.Restorable → shown = some value)
  unwritten : ∀ {state entries key value cause}, holds state entries →
    ((store.write key value).perform state).1 = .error cause →
    holds ((store.write key value).perform state).2 entries
  unused : ∀ {state entries key rejected}, holds state entries →
    ((store.delete key).perform state).1 = .error (.invalidKey rejected) → entries key = none

/-- The store in memory does all that it is told. -/
theorem faithful_memory : memory.Faithful fun state entries => state.get? = entries where
  read _ h := h
  found h read := by
    subst h
    exact (Except.ok.inj read).symm
  removed {state entries key} h _ := by
    subst h
    funext other
    change (state.erase key).get? other = _
    rw [Keyed.get?_erase, Function.update_apply]
    exact if_congr eq_comm rfl rfl
  unremoved _ failed := by cases failed
  written {state entries key value} h _ := by
    subst h
    refine ⟨some value, funext fun other => ?_, fun _ => rfl⟩
    change (state.insert key value).get? other = _
    rw [Keyed.get?_insert, Function.update_apply]
    exact if_congr eq_comm rfl rfl
  unwritten _ failed := by cases failed
  unused _ failed := by cases failed

/-! ### Stores that work -/

/-- The token and the id of a machine are kept under these keys. -/
def IsOfMachine (key : String) : Prop := key = tokenKey ∨ key = machineIdKey

/-- What is kept of the machine itself is kept without fail, and is found again. A value is found
again as it was if it is among those that can be restored. -/
structure Works (store : Store σ) (holds : σ → Entries → Prop) : Prop extends
    store.Spares holds where
  finds : ∀ {state entries key value}, holds state entries → IsOfMachine key →
    entries key = some value → ((store.read key).perform state).1 = .ok (some value)
  written : ∀ {state entries key value}, holds state entries →
    ((store.write key value).perform state).1 = .ok () →
    ∃ shown, holds ((store.write key value).perform state).2 (Function.update entries key shown) ∧
      (value.Restorable → shown = some value)
  unwritten : ∀ {state entries key value cause}, holds state entries →
    ((store.write key value).perform state).1 = .error cause →
    holds ((store.write key value).perform state).2 entries
  writes : ∀ {state entries key} value, holds state entries → IsOfMachine key →
    ((store.write key value).perform state).1 = .ok ()
  deletes : ∀ {state entries key}, holds state entries → IsOfMachine key →
    ((store.delete key).perform state).1 = .ok ()

/-- The store in memory never fails. -/
theorem works_memory : memory.Works fun state entries => state.get? = entries where
  toSpares := faithful_memory.toSpares
  finds {state entries key value} h _ there := by
    subst h
    exact congrArg Except.ok there
  written := faithful_memory.written
  unwritten := faithful_memory.unwritten
  writes _ _ _ := rfl
  deletes _ _ := rfl

end Store

/-! ### Stores of files -/

namespace FileStore

open FileTree Store

variable {dir : Path} {tree : FileTree} {contents : Contents} {key : String}

/-! #### What the files show -/

/-- The entries that are read of the files. One that cannot be read is as good as none. -/
def shownBy (contents : Contents) : Entries := fun key =>
  if isValidKey key then (valueIn (contents key)).toOption.join else none

/-- To change one file changes what is shown under its key only. -/
theorem shownBy_update (contents : Contents) (valid : isValidKey key = true)
    (content : Option (List UInt8)) :
    shownBy (Function.update contents key content) =
      Function.update (shownBy contents) key (valueIn content).toOption.join := by
  funext other
  rw [shownBy, Function.update_apply, Function.update_apply]
  by_cases here : other = key
  · rw [if_pos here, if_pos here, here, if_pos valid]
  · rw [if_neg here, if_neg here, shownBy]

/-- The files in the directory show these entries. -/
def HoldsEntries (dir : Path) (tree : FileTree) (entries : Entries) : Prop :=
  ∃ contents, Holds dir tree contents ∧ shownBy contents = entries

/-- Nothing is shown by a directory that is absent or empty. -/
theorem Empty.holdsEntries (h : Empty dir tree) : HoldsEntries dir tree fun _ => none :=
  ⟨_, h.holds, funext fun key => by simp [shownBy, valueIn, Except.toOption]⟩

end FileStore

namespace Store

open FileStore FileTree

namespace Operation

theorem done_eq_error {given : Except StoreError Unit × σ} {cause : StoreError} {after : σ}
    (h : done given = (.error cause, after)) : given = (.error cause, after) := by
  obtain ⟨result, state⟩ := given
  obtain ⟨same, rfl⟩ := Prod.mk.inj h
  cases result with
  | ok => cases same
  | error other => exact congrArg (·, state) (congrArg Except.error (Except.error.inj same))

theorem done_eq_ok {given : Except StoreError Unit × σ} {value : Option Json} {after : σ}
    (h : done given = (.ok value, after)) : given = (.ok (), after) := by
  obtain ⟨result, state⟩ := given
  obtain ⟨same, rfl⟩ := Prod.mk.inj h
  cases result with
  | ok => rfl
  | error other => cases same

end Operation

variable {dir : Path} {tree : FileTree} {contents : Contents} {key : String}

/-- An entry is read, or there is a fault. -/
theorem files_read_cases (held : Holds dir tree contents) (key : String) :
    (∃ cause, ((files dir).read key).perform tree = (.error cause, tree) ∧
      (isValidKey key = true → ¬NameFits dir (temporaryName key))) ∨
    ((files dir).read key).perform tree = (valueIn (contents key), tree) ∧
      isValidKey key = true := by
  cases valid : isValidKey key with
  | false => exact .inl ⟨_, step_of_not_valid (.read key) valid tree, nofun⟩
  | true =>
    obtain ⟨after, ⟨given, -, wide⟩ | ⟨given, -⟩⟩ :=
      held.step_drawer (show isValidKey (Operation.read key).key = true from valid)
    · obtain rfl : tree = after := congrArg Prod.snd given
      exact .inl ⟨_, given, fun _ => wide⟩
    · obtain rfl : tree = after := congrArg Prod.snd given
      exact .inr ⟨given, rfl⟩

/-- An entry is written, or there is a fault. -/
theorem files_write_cases (held : Holds dir tree contents) (key : String) (value : Json) :
    ∃ after, (∃ cause, ((files dir).write key value).perform tree = (.error cause, after) ∧
        Holds dir after contents ∧ (isValidKey key = true → ¬NameFits dir (temporaryName key))) ∨
      ((files dir).write key value).perform tree = (.ok (), after) ∧
        Holds dir after (Function.update contents key (some (contentOf value))) ∧
        isValidKey key = true := by
  cases valid : isValidKey key with
  | false =>
    have rejected : (Operation.write key value).step (files dir) tree = _ :=
      step_of_not_valid (.write key value) valid tree
    exact ⟨tree, .inl ⟨_, Operation.done_eq_error rejected, held, nofun⟩⟩
  | true =>
    obtain ⟨after, ⟨given, kept, wide⟩ | ⟨given, put⟩⟩ :=
      held.step_drawer (show isValidKey (Operation.write key value).key = true from valid)
    · exact ⟨after, .inl ⟨_, Operation.done_eq_error given, kept, fun _ => wide⟩⟩
    · exact ⟨after, .inr ⟨Operation.done_eq_ok given, put, rfl⟩⟩

/-- An entry is removed, or there is a fault. -/
theorem files_delete_cases (held : Holds dir tree contents) (key : String) :
    ∃ after, (∃ cause, ((files dir).delete key).perform tree = (.error cause, after) ∧
        Holds dir after contents ∧ (isValidKey key = true → ¬NameFits dir (temporaryName key))) ∨
      ((files dir).delete key).perform tree = (.ok (), after) ∧
        Holds dir after (Function.update contents key none) ∧ isValidKey key = true := by
  cases valid : isValidKey key with
  | false =>
    have rejected : (Operation.delete key).step (files dir) tree = _ :=
      step_of_not_valid (.delete key) valid tree
    exact ⟨tree, .inl ⟨_, Operation.done_eq_error rejected, held, nofun⟩⟩
  | true =>
    obtain ⟨after, ⟨given, kept, wide⟩ | ⟨given, removed⟩⟩ :=
      held.step_drawer (show isValidKey (Operation.delete key).key = true from valid)
    · exact ⟨after, .inl ⟨_, Operation.done_eq_error given, kept, fun _ => wide⟩⟩
    · exact ⟨after, .inr ⟨Operation.done_eq_ok given, removed, rfl⟩⟩

/-- In a directory that shows some entry, a name that is too long is no name of a file. -/
theorem files_delete_of_wide {entries : Entries} (held : HoldsEntries dir tree entries)
    {other : String} (there : entries other ≠ none) (valid : isValidKey key = true)
    (wide : ¬NameFits dir (fileName key)) :
    (((files dir).delete key).perform tree).1 = .error (.file .nameTooLong) := by
  obtain ⟨contents, held, rfl⟩ := held
  cases held with
  | absent empty absent =>
    refine absurd ?_ there
    simp [shownBy, valueIn, Except.toOption]
  | shows shown =>
    obtain ⟨after, given, -⟩ := shown.delete_eq key
    rw [guarded_of_valid valid, if_neg wide] at given
    exact congrArg Prod.fst given

/-- The keys of the machine itself name files. -/
theorem isValidKey_of_machine (h : IsOfMachine key) : isValidKey key = true := by
  rw [isValidKey_iff]
  rcases h with rfl | rfl <;> decide

/-- A type made of the characters of a key can be one in the key of an access record. -/
theorem isValidKey_accessKey {kind : String} (h : ∀ c ∈ kind.toList, isKeyChar c = true) :
    isValidKey (accessKey kind) = true := by
  have letters : (accessKey kind).toList = "machine-access-".toList ++ kind.toList :=
    String.toList_append
  rw [isValidKey_iff, letters]
  refine ⟨fun empty => ?_, fun c mem => ?_, fun dotted => ?_⟩
  · rw [empty] at letters
    exact absurd letters (by simp)
  · rcases List.mem_append.1 mem with front | own
    · exact (by decide : ∀ c ∈ "machine-access-".toList, isKeyChar c = true) c front
    · exact h c own
  · exact absurd (List.prefix_of_prefix_length_le dotted (List.prefix_append ..) (by decide))
      (by decide)

/-- A store of files does as it is told, or there is a fault. -/
theorem faithful_files (dir : Path) : (files dir).Faithful (HoldsEntries dir) where
  read _ h := h
  found {tree entries key value} h read := by
    obtain ⟨contents, held, rfl⟩ := h
    rcases files_read_cases held key with ⟨cause, given, -⟩ | ⟨given, valid⟩
    · rw [given] at read
      cases read
    · rw [given] at read
      have found : valueIn (contents key) = .ok value := read
      rw [shownBy, if_pos valid, found]
      rfl
  removed {tree entries key} h removed := by
    obtain ⟨contents, held, rfl⟩ := h
    obtain ⟨after, ⟨cause, given, -⟩ | ⟨given, held, valid⟩⟩ := files_delete_cases held key
    · rw [given] at removed
      cases removed
    · rw [given]
      exact ⟨_, held, shownBy_update contents valid none⟩
  unremoved {tree entries key cause} h failed := by
    obtain ⟨contents, held, rfl⟩ := h
    obtain ⟨after, ⟨cause, given, held, -⟩ | ⟨given, -⟩⟩ := files_delete_cases held key
    · rw [given]
      exact ⟨contents, held, rfl⟩
    · rw [given] at failed
      cases failed
  written {tree entries key value} h written := by
    obtain ⟨contents, held, rfl⟩ := h
    obtain ⟨after, ⟨cause, given, -⟩ | ⟨given, held, valid⟩⟩ := files_write_cases held key value
    · rw [given] at written
      cases written
    · rw [given]
      refine ⟨_, ⟨_, held, shownBy_update contents valid _⟩, fun restorable => ?_⟩
      rw [valueIn, contentOf, Json.read_pretty restorable]
      rfl
  unwritten {tree entries key value cause} h failed := by
    obtain ⟨contents, held, rfl⟩ := h
    obtain ⟨after, ⟨cause, given, held, -⟩ | ⟨given, -⟩⟩ := files_write_cases held key value
    · rw [given]
      exact ⟨contents, held, rfl⟩
    · rw [given] at failed
      cases failed
  unused {tree entries key rejected} h failed := by
    obtain ⟨contents, held, rfl⟩ := h
    rw [shownBy]
    split
    · next valid =>
      -- A key that is accepted may be wide, but it is not rejected.
      obtain ⟨after, ⟨given, -⟩ | ⟨given, -⟩⟩ :=
        held.step_drawer (show isValidKey (Operation.delete key).key = true from valid)
      · rw [Operation.done_eq_error given] at failed
        cases failed
      · have done : ((files dir).delete key).perform tree = (.ok (), after) :=
          Operation.done_eq_ok given
        rw [done] at failed
        cases failed
    · rfl

/-- A store of files works if there is room for the names of the files of the machine itself. -/
theorem works_files (fits : ∀ key, IsOfMachine key → NameFits dir (temporaryName key)) :
    (files dir).Works (HoldsEntries dir) where
  toSpares := (faithful_files dir).toSpares
  finds {tree entries key value} h ofMachine there := by
    -- For the keys of the machine there is room, which leaves the cases without a fault.
    obtain ⟨contents, held, rfl⟩ := h
    rcases files_read_cases held key with ⟨cause, -, wide⟩ | ⟨given, valid⟩
    · exact absurd (fits key ofMachine) (wide (isValidKey_of_machine ofMachine))
    · rw [given]
      rw [shownBy, if_pos valid] at there
      change valueIn (contents key) = _
      cases found : valueIn (contents key) with
      | error cause =>
        rw [found] at there
        cases there
      | ok shown =>
        rw [found] at there
        exact congrArg Except.ok there
  written := (faithful_files dir).written
  unwritten := (faithful_files dir).unwritten
  writes {tree entries key} value h ofMachine := by
    obtain ⟨contents, held, rfl⟩ := h
    obtain ⟨after, ⟨cause, -, -, wide⟩ | ⟨given, -⟩⟩ := files_write_cases held key value
    · exact absurd (fits key ofMachine) (wide (isValidKey_of_machine ofMachine))
    · rw [given]
  deletes {tree entries key} h ofMachine := by
    obtain ⟨contents, held, rfl⟩ := h
    obtain ⟨after, ⟨cause, -, -, wide⟩ | ⟨given, -⟩⟩ := files_delete_cases held key
    · exact absurd (fits key ofMachine) (wide (isValidKey_of_machine ofMachine))
    · rw [given]

end Store

end Subscription
