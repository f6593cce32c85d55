import Subscription.Proofs.Files.Paths

/-!
# Cutting and joining

Joining the parts of a text that is cut at a separator gives the text again
(`intercalate_splitAt`), and parts without the separator are the parts of what they are joined to
(`splitAt_intercalate`).
-/

namespace Subscription

variable {separator : Char}

theorem splitAt_of_notMem {chars : List Char} (h : separator ∉ chars) :
    splitAt separator chars = [chars] := by
  induction chars with
  | nil => rfl
  | cons c rest ih =>
    obtain ⟨other, others⟩ := not_or.1 (mt List.mem_cons.2 h)
    rw [splitAt, if_neg (Ne.symm other), ih others]

/-- Joining the parts of a text gives the text. -/
theorem intercalate_splitAt (separator : Char) (chars : List Char) :
    [separator].intercalate (splitAt separator chars) = chars := by
  induction chars with
  | nil => rfl
  | cons c rest ih =>
    rw [splitAt]
    cases found : splitAt separator rest with
    | nil => exact absurd found (splitAt_ne_nil separator rest)
    | cons part parts =>
      rw [found] at ih
      split
      · next same =>
        rw [List.intercalate_cons_cons, ih, same, List.nil_append, List.singleton_append]
      · cases parts with
        | nil =>
          rw [List.intercalate_singleton] at ih ⊢
          rw [ih]
        | cons next parts =>
          rw [List.intercalate_cons_cons] at ih ⊢
          rw [List.cons_append, List.cons_append, ih]

/-- What is joined of parts without the separator has these parts. -/
theorem splitAt_intercalate {parts : List (List Char)} (some_part : parts ≠ [])
    (h : ∀ part ∈ parts, separator ∉ part) :
    splitAt separator ([separator].intercalate parts) = parts := by
  induction parts with
  | nil => exact absurd rfl some_part
  | cons part parts ih =>
    obtain ⟨first, others⟩ := List.forall_mem_cons.1 h
    cases parts with
    | nil => rw [List.intercalate_singleton, splitAt_of_notMem first]
    | cons next parts =>
      rw [List.intercalate_cons_cons, List.append_assoc, List.singleton_append, splitAt_append,
        splitAt_of_notMem first, ih (List.cons_ne_nil _ _) others, List.singleton_append]

/-- What is joined of parts begins with the first of them. -/
theorem exists_intercalate_cons (separator : Char) (part : List Char) (parts : List (List Char)) :
    ∃ rest, [separator].intercalate (part :: parts) = part ++ rest := by
  cases parts with
  | nil => exact ⟨[], by rw [List.intercalate_singleton, List.append_nil]⟩
  | cons next parts => exact ⟨_, by rw [List.intercalate_cons_cons, List.append_assoc]⟩

theorem mem_intercalate {parts : List (List Char)} {c : Char}
    (h : c ∈ [separator].intercalate parts) : c = separator ∨ ∃ part ∈ parts, c ∈ part := by
  induction parts with
  | nil => exact absurd h List.not_mem_nil
  | cons part parts ih =>
    cases parts with
    | nil =>
      rw [List.intercalate_singleton] at h
      exact .inr ⟨part, List.mem_cons_self, h⟩
    | cons next parts =>
      rw [List.intercalate_cons_cons, List.append_assoc, List.mem_append, List.singleton_append,
        List.mem_cons] at h
      rcases h with here | rfl | later
      · exact .inr ⟨part, List.mem_cons_self, here⟩
      · exact .inl rfl
      · rcases ih later with same | ⟨part, among, mem⟩
        · exact .inl same
        · exact .inr ⟨part, List.mem_cons_of_mem _ among, mem⟩

end Subscription
