import Subscription.Proofs.Json.RoundTrip
import Subscription.Proofs.Json.Sorted
import Subscription.Proofs.Store.Operations
import Subscription.Store.Memory

/-!
# Files instead of memory

Whoever uses a store of files sees what a store in memory would show (`Store.files_refine_memory`).
Between the two stands the drawer, which the directory follows (`FileStore.Holds.step_drawer`). What
is in the drawer reads as the entries in memory (`FileStore.Agrees`), because reading undoes
writing. Each operation keeps the three together, unless there is no room for the name of a file;
then it says so (`FileStore.Holds.step_memory`).
-/

namespace Subscription

namespace Store.Operation

/-- Whether a value that is written is among those that are read back as they were. -/
def Restorable : Operation → Prop
  | write _ value => value.Restorable
  | _ => True

/-- Whether a store of files accepts the key. -/
def isAccepted (operation : Operation) : Bool := FileStore.isValidKey operation.key

end Store.Operation

namespace FileStore

open FileTree Store

variable {dir : Path} {tree : FileTree} {contents : Contents} {entries : Keyed Json}

/-! ### Entries in files and in memory -/

/-- The contents read as the entries, key by key. -/
def Agrees (entries : Keyed Json) (contents : Contents) : Prop :=
  ∀ key, isValidKey key = true → (contents key).map Json.read = (entries.get? key).map .ok

namespace Agrees

theorem nil : Agrees [] fun _ => none := fun _ _ => rfl

theorem valueIn_eq (h : Agrees entries contents) {key : String} (valid : isValidKey key = true) :
    valueIn (contents key) = .ok (entries.get? key) := by
  have same := h key valid
  cases there : contents key with
  | none =>
    rw [there, Option.map_none] at same
    rw [Option.map_eq_none_iff.1 same.symm]
    rfl
  | some bytes =>
    rw [there, Option.map_some] at same
    obtain ⟨value, found, read⟩ := Option.map_eq_some_iff.1 same.symm
    rw [found, valueIn, ← read]

/-- An entry that is written or removed in both is the same in both afterwards. -/
theorem set (h : Agrees entries contents) (key : String) {content : Option (List UInt8)}
    {value : Option Json} (same : content.map Json.read = value.map .ok) :
    Agrees (entries.set key value) (Function.update contents key content) := by
  intro other valid
  rw [Keyed.get?_set, Function.update_apply]
  by_cases here : key = other
  · rw [if_pos here, if_pos here.symm, same]
  · rw [if_neg here, if_neg (Ne.symm here), h other valid]

/-- What is done in the drawer is done in memory. -/
theorem step (h : Agrees entries contents) {operation : Operation}
    (accepted : operation.isAccepted = true) (restorable : operation.Restorable) :
    (operation.step drawer contents).1 = (operation.step Store.memory entries).1 ∧
      Agrees (operation.step Store.memory entries).2 (operation.step drawer contents).2 := by
  cases operation with
  | read key => exact ⟨h.valueIn_eq accepted, h⟩
  | write key value =>
    have kept : Agrees (entries.set key (some value))
        (Function.update contents key (some (contentOf value))) :=
      h.set key (congrArg some (Json.read_pretty restorable))
    exact ⟨rfl, kept⟩
  | delete key =>
    have kept : Agrees (entries.set key none) (Function.update contents key none) := h.set key rfl
    exact ⟨rfl, kept⟩

end Agrees

/-! ### The directory follows the entries in memory -/

/-- What is done in the directory is done in memory, unless there is no room for the name of the
file: then the store says so. -/
theorem Holds.step_memory (h : Holds dir tree contents) (agrees : Agrees entries contents)
    {operation : Operation} (accepted : operation.isAccepted = true)
    (restorable : operation.Restorable) :
    ((operation.step (Store.files dir) tree).1 = .error (.file .nameTooLong) ∧
      ¬NameFits dir (temporaryName operation.key)) ∨
    ((operation.step (Store.files dir) tree).1 = (operation.step Store.memory entries).1 ∧
      ∃ contents, Holds dir (operation.step (Store.files dir) tree).2 contents ∧
        Agrees (operation.step Store.memory entries).2 contents) := by
  obtain ⟨same, agree⟩ := agrees.step accepted restorable
  obtain ⟨after, ⟨given, -, wide⟩ | ⟨given, holds⟩⟩ := h.step_drawer accepted
  · exact .inl ⟨congrArg Prod.fst given, wide⟩
  · rw [given]
    exact .inr ⟨same, _, holds, agree⟩

/-- What accepted operations give, one after another, is what they give in memory, unless there is
no room for the name of some file: then the store says so. -/
theorem Holds.run_memory (h : Holds dir tree contents) (agrees : Agrees entries contents)
    {operations : List Operation} (restorable : ∀ operation ∈ operations, operation.Restorable) :
    (.error (.file .nameTooLong) ∈ (Operation.run (Store.files dir) operations tree).1 ∧
      ∃ operation ∈ operations, operation.isAccepted = true ∧
        ¬NameFits dir (temporaryName operation.key)) ∨
    (operations.zip (Operation.run (Store.files dir) operations tree).1).filter
        (fun given => given.1.isAccepted) =
      (operations.filter Operation.isAccepted).zip
        (Operation.run Store.memory (operations.filter Operation.isAccepted) entries).1 := by
  -- The tree, the contents and the entries change together, so the induction is over all three.
  induction operations generalizing tree contents entries with
  | nil => exact .inr rfl
  | cons operation rest ih =>
    obtain ⟨first, later⟩ := List.forall_mem_cons.1 restorable
    rw [Operation.run_cons, List.zip_cons_cons, List.filter_cons, List.filter_cons]
    cases accepted : operation.isAccepted with
    | false =>
      rw [step_of_not_valid operation accepted]
      refine (ih h agrees later).imp_left ?_
      rintro ⟨fault, other, mem, wide⟩
      exact ⟨List.mem_cons_of_mem _ fault, other, List.mem_cons_of_mem _ mem, wide⟩
    | true =>
      rcases h.step_memory agrees accepted first with ⟨fault, wide⟩ | ⟨given, _, holds, agree⟩
      · exact .inl ⟨fault ▸ List.mem_cons_self, operation, List.mem_cons_self, accepted, wide⟩
      · refine (ih holds agree later).imp ?_ fun same => ?_
        · rintro ⟨fault, other, mem, wide⟩
          exact ⟨List.mem_cons_of_mem _ fault, other, List.mem_cons_of_mem _ mem, wide⟩
        · rw [if_pos rfl, if_pos rfl, Operation.run_cons, List.zip_cons_cons, given, same]

end FileStore

namespace Store

open FileStore FileTree

/-- **A store of files does what a store in memory does.** From a directory that is absent or empty,
on a file system without faults, the operations whose key is accepted give what they give in memory
when the others are left out. A rejected key is reported, whatever the directory is, and nothing is
done. On this file system the only fault is a name that is too long, and there is none if the name
of the temporary file of each key fits.

The store has no state but the directory, so it makes no difference whether the operations use one
store of files or a new one each. -/
theorem files_refine_memory {dir : Path} {tree : FileTree} {operations : List Operation}
    (empty : Empty dir tree) (restorable : ∀ operation ∈ operations, operation.Restorable)
    (faultless :
      (∀ cause, .error (.file cause) ∉ (Operation.run (files dir) operations tree).1) ∨
      ∀ operation ∈ operations, operation.isAccepted = true →
        NameFits dir (temporaryName operation.key)) :
    (operations.zip (Operation.run (files dir) operations tree).1).filter
        (fun given => given.1.isAccepted) =
      (operations.filter Operation.isAccepted).zip
        (Operation.run memory (operations.filter Operation.isAccepted) []).1 ∧
    ∀ (operation : Operation) (tree : FileTree), operation.isAccepted = false →
      operation.step (files dir) tree = (.error (.invalidKey operation.key), tree) := by
  refine ⟨?_, fun operation tree rejected => step_of_not_valid operation rejected tree⟩
  rcases empty.holds.run_memory .nil restorable with ⟨fault, operation, mem, accepted, wide⟩ | same
  · rcases faultless with none | fits
    · exact (none _ fault).elim
    · exact (wide (fits operation mem accepted)).elim
  · exact same

/-- A value with members, a list, an escaped text and numbers of both signs. -/
def nestedToken : Json :=
  .object [("machineToken", .string "a \"token\"\n"),
    ("nested", .object [("a", .array [.number (.unsigned 1), .number (.negative 1), .null])])]

/-- An entry that is sought, written, read and removed twice, with a key in between that would lead
out of the directory. -/
def tokenVisits : List Operation :=
  [.read "machine-token", .write "machine-token" nestedToken, .write "../escape" nestedToken,
    .read "machine-token", .delete "machine-token", .delete "machine-token", .read "machine-token"]

theorem files_refine_memory_tokenVisits :
    (Empty ["lib", "contracts"] [] ∧ (∀ operation ∈ tokenVisits, operation.Restorable) ∧
      ∀ operation ∈ tokenVisits, operation.isAccepted = true →
        NameFits ["lib", "contracts"] (temporaryName operation.key)) ∧
    ((tokenVisits.zip (Operation.run (files ["lib", "contracts"]) tokenVisits []).1).filter
        (fun given => given.1.isAccepted)).map Prod.snd =
      [.ok none, .ok none, .ok (some nestedToken), .ok none, .ok none, .ok none] := by
  have restorable : ∀ operation ∈ tokenVisits, operation.Restorable := by
    have token_restorable : nestedToken.Restorable :=
      ⟨by decide,
        by simp [nestedToken, Json.IsWhole, Json.ItemsWhole, Json.MembersWhole, Number.IsWhole],
        by decide⟩
    simp [tokenVisits, Operation.Restorable, token_restorable]
  have fits : ∀ operation ∈ tokenVisits,
      NameFits ["lib", "contracts"] (temporaryName operation.key) := by decide
  refine ⟨⟨empty_contracts, restorable, fun operation mem _ => fits operation mem⟩, ?_⟩
  have accepted : tokenVisits.filter Operation.isAccepted =
      [.read "machine-token", .write "machine-token" nestedToken, .read "machine-token",
        .delete "machine-token", .delete "machine-token", .read "machine-token"] := by
    have valid : isValidKey "machine-token" = true := isValidKey_iff.2 (by decide)
    have rejected : isValidKey "../escape" = false := by
      rw [← Bool.not_eq_true, isValidKey_iff]
      decide
    simp [tokenVisits, Operation.isAccepted, Operation.key, valid, rejected]
  rw [(files_refine_memory empty_contracts restorable
    (.inr fun operation mem _ => fits operation mem)).1, accepted]
  rfl

end Store

end Subscription
