import Mathlib.Data.List.DropRight
import Subscription.Files.Path

/-!
# The names of a path that goes on

A path that is continued has the names of both parts. Slashes at the end of the first part become
names that are empty, which lead nowhere.
-/

namespace Subscription

theorem splitAt_ne_nil (separator : Char) (chars : List Char) : splitAt separator chars ≠ [] := by
  cases chars with
  | nil => exact List.cons_ne_nil _ _
  | cons c rest =>
    rw [splitAt]
    split
    · exact List.cons_ne_nil _ _
    · split <;> exact List.cons_ne_nil _ _

/-- Two texts with a separator between them have the parts of both. -/
theorem splitAt_append (separator : Char) (front rest : List Char) :
    splitAt separator (front ++ separator :: rest) =
      splitAt separator front ++ splitAt separator rest := by
  induction front with
  | nil => simp [splitAt]
  | cons c front ih =>
    by_cases here : c = separator
    · simp [splitAt, here, ih]
    · rw [List.cons_append, splitAt, if_neg here, ih, splitAt, if_neg here]
      cases parts : splitAt separator front with
      | nil => exact (splitAt_ne_nil separator front parts).elim
      | cons part parts => rfl

namespace PathText

/-- What stands between the slashes of a path. -/
def parts (path : String) : Path := (splitAt '/' path.toList).map String.ofList

theorem names_eq_rdropWhile (path : String) :
    names path = (parts path).rdropWhile fun name => name = "" := rfl

theorem parts_append (path rest : String) :
    parts (path ++ "/" ++ rest) = parts path ++ parts rest := by
  have letters : (path ++ "/" ++ rest).toList = path.toList ++ '/' :: rest.toList := by
    simp [String.toList_append]
  rw [parts, letters, splitAt_append, List.map_append]
  rfl

theorem endsWith_slash {path : String} (h : path.endsWith "/" = true) :
    ∃ front, path = front ++ "/" := by
  rw [String.endsWith_eq_endsWith_toSlice, String.Slice.endsWith_string_iff,
    String.copy_toSlice] at h
  obtain ⟨front, same⟩ := h
  refine ⟨String.ofList front, String.toList_injective ?_⟩
  rw [String.toList_append, String.toList_ofList, same]

/-- A path that is continued has all parts of the continuation behind its own. -/
theorem parts_join (path : String) {rest : String} (relative : ¬['/'] <+: rest.toList) :
    ∃ front, parts (join path rest) = front ++ parts rest ∧
      names path = front.rdropWhile fun name => name = "" := by
  have inside : rest.startsWith "/" = false := String.startsWith_string_eq_false_iff.2 relative
  rw [join, inside, Bool.false_or]
  split
  · next empty =>
    obtain rfl := String.isEmpty_iff.1 empty
    exact ⟨[], rfl, rfl⟩
  · split
    · next slash =>
      obtain ⟨front, rfl⟩ := endsWith_slash slash
      refine ⟨parts front, parts_append front rest, ?_⟩
      have whole : parts (front ++ "/") = parts front ++ [""] := by
        have empty : front ++ "/" ++ "" = front ++ "/" := String.append_empty
        rw [← empty, parts_append]
        rfl
      rw [names_eq_rdropWhile, whole, List.rdropWhile_concat_pos]
      rfl
    · exact ⟨parts path, parts_append path rest, names_eq_rdropWhile path⟩

/-- The names of a path that is continued: its own, empty ones for slashes at its end, and those of
the continuation. -/
theorem names_join (path : String) {rest : String} {middle : Path} {last : String}
    (relative : ¬['/'] <+: rest.toList) (ends : parts rest = middle ++ [last])
    (named : last ≠ "") : ∃ blanks, (∀ name ∈ blanks, name = "") ∧
      names (join path rest) = names path ++ blanks ++ middle ++ [last] := by
  obtain ⟨front, whole, own⟩ := parts_join path relative
  refine ⟨front.rtakeWhile fun name => name = "", fun name mem => ?_, ?_⟩
  · simpa using List.mem_rtakeWhile_imp mem
  · rw [own, List.rdropWhile_append_rtakeWhile, names_eq_rdropWhile, whole, ends,
      ← List.append_assoc, List.rdropWhile_concat_neg]
    simpa using named

end PathText

end Subscription
