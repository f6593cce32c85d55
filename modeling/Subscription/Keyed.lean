/-!
# Values under text keys, in key order

A `Keyed α` lists values under text keys. Every operation of this module keeps the keys strictly
ascending (by code point, which is also the order of their UTF-8 bytes), so a collection has one
representation and its listing order says nothing about how it was built.

The view of a collection is `Keyed.get?`; `get?_insert` and `get?_erase` say what the two updates
do to it, and `Sorted.insert`, `Sorted.erase` that they keep the order.
-/

namespace Subscription

/-- Values under text keys, listed in ascending key order. -/
abbrev Keyed (α : Type) := List (String × α)

namespace Keyed

variable {α β : Type}

/-- The keys are strictly ascending; in particular no key occurs twice. -/
def Sorted (entries : Keyed α) : Prop := entries.Pairwise fun a b => a.1 < b.1

instance (entries : Keyed α) : Decidable (Sorted entries) :=
  inferInstanceAs (Decidable (List.Pairwise _ _))

/-! ### Access -/

/-- The value under `key`. -/
def get? : Keyed α → String → Option α
  | [], _ => none
  | (k, value) :: rest, key => if k = key then some value else get? rest key

/-- Whether something stands under `key`. -/
def contains (entries : Keyed α) (key : String) : Bool := (entries.get? key).isSome

/-- The keys, in ascending order. -/
def keys (entries : Keyed α) : List String := entries.map Prod.fst

/-! ### Updates -/

/-- Puts `value` under `key`, at its place in the order; a value already there is replaced. -/
def insert : Keyed α → String → α → Keyed α
  | [], key, value => [(key, value)]
  | (k, old) :: rest, key, value =>
    if key < k then (key, value) :: (k, old) :: rest
    else if key = k then (key, value) :: rest
    else (k, old) :: insert rest key value

/-- Removes what stands under `key`. -/
def erase (entries : Keyed α) (key : String) : Keyed α := entries.filter fun entry => entry.1 ≠ key

/-- Removes what stands under any of `keys`. -/
def without (entries : Keyed α) (keys : List String) : Keyed α :=
  entries.filter fun entry => entry.1 ∉ keys

/-- The collection of the listed entries; of two entries with one key the later counts. -/
def ofList (entries : List (String × α)) : Keyed α :=
  entries.foldl (fun collected entry => collected.insert entry.1 entry.2) []

/-- Every value passed through `f`, the keys kept. -/
def mapValues (f : α → β) (entries : Keyed α) : Keyed β :=
  entries.map fun entry => (entry.1, f entry.2)

/-! ### Laws -/

@[simp] theorem get?_nil (key : String) : get? ([] : Keyed α) key = none := rfl

theorem get?_cons (k : String) (value : α) (rest : Keyed α) (key : String) :
    get? ((k, value) :: rest) key = if k = key then some value else get? rest key := rfl

/-- After an insertion the new value stands under its key, and every other key is as before. -/
theorem get?_insert (entries : Keyed α) (key : String) (value : α) (other : String) :
    (entries.insert key value).get? other =
      if key = other then some value else entries.get? other := by
  induction entries with
  | nil => rfl
  | cons entry rest ih =>
    obtain ⟨k, old⟩ := entry
    simp only [insert]
    split
    · rfl
    · split
      · subst_vars
        by_cases h : k = other <;> simp [get?_cons, h]
      · simp only [get?_cons, ih]
        by_cases h : k = other <;> by_cases h' : key = other <;> simp_all

/-- After a removal nothing stands under the key, and every other key is as before. -/
theorem get?_erase (entries : Keyed α) (key other : String) :
    (entries.erase key).get? other = if key = other then none else entries.get? other := by
  induction entries with
  | nil => simp [erase]
  | cons entry rest ih =>
    obtain ⟨k, value⟩ := entry
    by_cases same : k = key
    · have dropped : erase ((k, value) :: rest) key = erase rest key := by simp [erase, same]
      rw [dropped, ih, get?_cons]
      by_cases h : key = other
      · simp [h]
      · simp [h, same]
    · have kept : erase ((k, value) :: rest) key = (k, value) :: erase rest key := by
        simp [erase, same]
      rw [kept, get?_cons, get?_cons, ih]
      by_cases h : k = other
      · have : key ≠ other := fun e => same (h.trans e.symm)
        simp [h, this]
      · simp [h]

theorem mem_insert {entries : Keyed α} {key : String} {value : α} {entry : String × α}
    (h : entry ∈ entries.insert key value) : entry = (key, value) ∨ entry ∈ entries := by
  induction entries with
  | nil => simpa [insert] using h
  | cons head rest ih =>
    simp only [insert] at h
    split at h
    · simpa using h
    · split at h
      · rcases List.mem_cons.1 h with h | h
        · exact .inl h
        · exact .inr (List.mem_cons_of_mem _ h)
      · rcases List.mem_cons.1 h with h | h
        · exact .inr (h ▸ List.mem_cons_self)
        · exact (ih h).imp id (List.mem_cons_of_mem _)

/-- Insertion keeps the keys ascending. -/
theorem Sorted.insert {entries : Keyed α} (sorted : entries.Sorted) (key : String) (value : α) :
    (entries.insert key value).Sorted := by
  induction entries with
  | nil => simp [Keyed.insert, Sorted]
  | cons head rest ih =>
    obtain ⟨k, old⟩ := head
    have ⟨above, tail⟩ := List.pairwise_cons.1 sorted
    simp only [Keyed.insert]
    split
    · rename_i below
      refine List.pairwise_cons.2 ⟨fun entry mem => ?_, sorted⟩
      rcases List.mem_cons.1 mem with rfl | mem
      · exact below
      · exact String.lt_trans below (above entry mem)
    · rename_i notBelow
      split
      · subst_vars
        exact List.pairwise_cons.2 ⟨above, tail⟩
      · rename_i different
        refine List.pairwise_cons.2 ⟨fun entry mem => ?_, ih tail⟩
        rcases mem_insert mem with rfl | mem
        · exact Std.lt_of_le_of_ne (String.not_lt.1 notBelow) fun e => different e.symm
        · exact above entry mem

/-- Removal keeps the keys ascending. -/
theorem Sorted.erase {entries : Keyed α} (sorted : entries.Sorted) (key : String) :
    (entries.erase key).Sorted :=
  List.Pairwise.filter _ sorted

/-- A collection built from a list of entries has ascending keys. -/
theorem sorted_ofList (entries : List (String × α)) : (ofList entries).Sorted := by
  suffices ∀ (collected : Keyed α), collected.Sorted →
      Sorted (entries.foldl (fun c (entry : String × α) => c.insert entry.1 entry.2) collected) from
    this [] List.Pairwise.nil
  induction entries with
  | nil => exact fun _ h => h
  | cons entry rest ih => exact fun collected h => ih _ (h.insert _ _)

end Keyed

end Subscription
