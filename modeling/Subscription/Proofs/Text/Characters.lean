/-!
# Lists of characters

What holds of the characters of a list is decided by going through the list, not through all
characters there are. What is taken from a text up to some character does not depend on what stands
behind that character.
-/

namespace Subscription

instance (priority := high) decidableForallMem (chars : List Char) (p : Char → Prop)
    [DecidablePred p] : Decidable (∀ c ∈ chars, p c) := List.decidableBAll p chars

instance (priority := high) decidableExistsMem (chars : List Char) (p : Char → Prop)
    [DecidablePred p] : Decidable (∃ c ∈ chars, p c) := List.decidableBEx p chars

section Front

variable {p : Char → Bool} {front rest : List Char}

theorem takeWhile_append_of_stops (inside : ∀ c ∈ front, p c) (stops : ∀ c ∈ rest.head?, ¬p c) :
    (front ++ rest).takeWhile p = front := by
  rw [List.takeWhile_append_of_pos inside]
  cases rest with
  | nil => rw [List.takeWhile_nil, List.append_nil]
  | cons c rest => rw [List.takeWhile_cons_of_neg (stops c rfl), List.append_nil]

theorem dropWhile_append_of_stops (inside : ∀ c ∈ front, p c) (stops : ∀ c ∈ rest.head?, ¬p c) :
    (front ++ rest).dropWhile p = rest := by
  rw [List.dropWhile_append_of_pos inside]
  cases rest with
  | nil => rfl
  | cons c rest => rw [List.dropWhile_cons_of_neg (stops c rfl)]

end Front

theorem takeWhile_append_cons {p : Char → Bool} {stop : Char} (h : p stop = false)
    (front rest : List Char) : (front ++ stop :: rest).takeWhile p = front.takeWhile p := by
  induction front with
  | nil => simp [h]
  | cons c front ih => rw [List.cons_append, List.takeWhile_cons, List.takeWhile_cons, ih]

theorem dropWhile_append_cons {p : Char → Bool} {stop : Char} (h : p stop = false)
    (front rest : List Char) :
    (front ++ stop :: rest).dropWhile p = front.dropWhile p ++ stop :: rest := by
  induction front with
  | nil => simp [h]
  | cons c front ih =>
    rw [List.cons_append, List.dropWhile_cons, List.dropWhile_cons, ih]
    split <;> rfl

end Subscription
