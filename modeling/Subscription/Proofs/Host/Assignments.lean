import Mathlib.Data.List.DropRight
import Subscription.Host.Release
import Subscription.Proofs.Text.Parts

/-!
# What a release description says

A line of a release description sets a name if the name stands in front of the first equals sign in
it, blanks around the line apart. Of the lines that set a name the first one counts, whatever stands
around it: comments, blank lines, lines of another form, lines for other names. So the value of a
name is what the first line that sets it has between quotes (`Release.value_of_firstSets`), and it
is empty exactly if there is no such line, or one with nothing but quotes
(`Release.value_eq_empty_iff`).
-/

namespace Subscription

namespace Release

variable {name : String} {line raw : List Char} {lines : List (List Char)}

/-! ### Lines -/

/-- A name that can stand in front of an equals sign, in a line that is no comment. -/
structure IsName (name : String) : Prop where
  noEquals : '=' ∉ name.toList
  noComment : ¬['#'] <+: name.toList

/-- The line sets the name to these characters, which may have quotes around them. -/
def Sets (name : String) (line raw : List Char) : Prop :=
  trimBlanks line = name.toList ++ '=' :: raw

instance (name : String) (line raw : List Char) : Decidable (Sets name line raw) :=
  inferInstanceAs (Decidable (trimBlanks line = name.toList ++ '=' :: raw))

/-- The first of the lines that sets the name sets it to these characters. -/
inductive FirstSets (name : String) : List (List Char) → List Char → Prop
  | here {line raw : List Char} {lines : List (List Char)} :
      Sets name line raw → FirstSets name (line :: lines) raw
  | behind {line raw : List Char} {lines : List (List Char)} :
      (∀ other, ¬Sets name line other) → FirstSets name lines raw →
        FirstSets name (line :: lines) raw

/-- No line sets the name, or the first that does has nothing but quotes for it. -/
def LeavesOut (name : String) (lines : List (List Char)) : Prop :=
  ∀ raw, FirstSets name lines raw → ∀ c ∈ raw, c = '"'

/-- The lines of a text. -/
def linesOf (text : String) : List (List Char) := splitAt '\n' text.toList

/-- A line that sets a name is no comment. -/
theorem IsName.head?_ne (isName : IsName name) (raw : List Char) :
    (name.toList ++ '=' :: raw).head? ≠ some '#' := by
  have noComment := isName.noComment
  cases letters : name.toList with
  | nil => exact fun comment => absurd (Option.some.inj comment) (by decide)
  | cons c rest =>
    rw [letters] at noComment
    intro comment
    obtain rfl : c = '#' := Option.some.inj comment
    exact noComment (by simp)

/-- A line that sets a name assigns it what it has behind the equals sign, without the quotes around
it. -/
theorem assignment?_of_sets (isName : IsName name) (h : Sets name line raw) :
    assignment? line = some (name, String.ofList (withoutQuotes raw)) := by
  cases parts : splitAt '=' raw with
  | nil => exact absurd parts (splitAt_ne_nil '=' raw)
  | cons part others =>
    have cut : splitAt '=' (trimBlanks line) = name.toList :: part :: others := by
      rw [h, splitAt_append, splitAt_of_notMem isName.noEquals, parts, List.singleton_append]
    have whole := intercalate_splitAt '=' raw
    rw [parts] at whole
    have head : (trimBlanks line).head? ≠ some '#' := h ▸ isName.head?_ne raw
    simp only [assignment?, if_neg head, cut, whole, String.ofList_toList]

/-- A line that assigns something to a name sets it. -/
theorem exists_sets_of_assignment? {value : String} (h : assignment? line = some (name, value)) :
    ∃ raw, Sets name line raw := by
  simp only [assignment?] at h
  split at h
  · cases h
  · split at h
    · next first part others cut =>
      obtain ⟨rfl, -⟩ := Prod.mk.inj (Option.some.inj h)
      have whole := intercalate_splitAt '=' (trimBlanks line)
      rw [cut, List.intercalate_cons_cons, List.append_assoc, List.singleton_append] at whole
      exact ⟨_, by rw [Sets, ← whole, String.toList_ofList]⟩
    · cases h

/-- The name that a line sets is the one it is read with. -/
theorem exists_sets_iff (isName : IsName name) :
    (∃ raw, Sets name line raw) ↔ (assignment? line).map Prod.fst = some name := by
  constructor
  · rintro ⟨raw, sets⟩
    rw [assignment?_of_sets isName sets, Option.map_some]
  · intro h
    obtain ⟨⟨_, value⟩, found, rfl⟩ := Option.map_eq_some_iff.1 h
    exact exists_sets_of_assignment? found

/-! ### Looking up a name -/

/-- The first assignment to a name in lines. -/
def lookup? (name : String) (lines : List (List Char)) : Option (String × String) :=
  (lines.filterMap assignment?).find? fun assignment => assignment.1 = name

theorem value_ofText (text name : String) :
    (ofText text).value name = ((lookup? name (linesOf text)).map Prod.snd).getD "" := rfl

theorem lookup?_cons_of_sets (isName : IsName name) (h : Sets name line raw) :
    lookup? name (line :: lines) = some (name, String.ofList (withoutQuotes raw)) := by
  rw [lookup?, List.filterMap_cons_some (assignment?_of_sets isName h), List.find?_cons_of_pos]
  exact decide_eq_true rfl

theorem lookup?_cons_of_not_sets (isName : IsName name) (h : ∀ raw, ¬Sets name line raw) :
    lookup? name (line :: lines) = lookup? name lines := by
  have other := mt (exists_sets_iff isName).2 (not_exists.2 h)
  cases found : assignment? line with
  | none => rw [lookup?, List.filterMap_cons_none found, lookup?]
  | some assignment =>
    rw [found, Option.map_some, Option.some_inj] at other
    rw [lookup?, List.filterMap_cons_some found, List.find?_cons_of_neg, lookup?]
    exact mt of_decide_eq_true other

/-- The first line that sets a name decides, whatever stands behind it. -/
theorem lookup?_of_firstSets (isName : IsName name) (h : FirstSets name lines raw) :
    lookup? name lines = some (name, String.ofList (withoutQuotes raw)) := by
  induction h with
  | here sets => exact lookup?_cons_of_sets isName sets
  | behind other _ ih => rw [lookup?_cons_of_not_sets isName other, ih]

/-- A name that no line sets is not found. -/
theorem lookup?_of_forall_not_firstSets (isName : IsName name)
    (h : ∀ raw, ¬FirstSets name lines raw) : lookup? name lines = none := by
  induction lines with
  | nil => rfl
  | cons line lines ih =>
    have other (raw : List Char) : ¬Sets name line raw := fun sets => h raw (.here sets)
    rw [lookup?_cons_of_not_sets isName other, ih fun raw first => h raw (.behind other first)]

/-! ### Quotes -/

theorem withoutQuotes_eq (chars : List Char) :
    withoutQuotes chars = (chars.dropWhile (· = '"')).rdropWhile (· = '"') := rfl

/-- What is dropped at the end is dropped from the part behind, if the part in front ends
otherwise. -/
theorem rdropWhile_append {p : Char → Bool} {front : List Char} (some_char : front ≠ [])
    (ends : ¬p (front.getLast some_char)) (rest : List Char) :
    (front ++ rest).rdropWhile p = front ++ rest.rdropWhile p := by
  induction rest using List.reverseRecOn with
  | nil =>
    rw [List.rdropWhile_nil, List.append_nil]
    exact List.rdropWhile_eq_self_iff.2 fun _ => ends
  | append_singleton rest c ih =>
    rw [← List.append_assoc]
    by_cases dropped : p c
    · rw [List.rdropWhile_concat_pos _ _ _ dropped, List.rdropWhile_concat_pos _ _ _ dropped, ih]
    · rw [List.rdropWhile_concat_neg _ _ _ dropped, List.rdropWhile_concat_neg _ _ _ dropped,
        List.append_assoc]

/-- Quotes around characters are taken away, but not what stands between other characters. -/
theorem withoutQuotes_quoted {front : List Char} (some_char : front ≠ [])
    (begins : front.head some_char ≠ '"') (ends : front.getLast some_char ≠ '"')
    (rest : List Char) :
    withoutQuotes ('"' :: (front ++ rest) ++ ['"']) = front ++ rest.rdropWhile (· = '"') := by
  have kept : (front ++ rest ++ ['"']).dropWhile (· = '"') = front ++ rest ++ ['"'] := by
    obtain ⟨first, others, rfl⟩ := List.exists_cons_of_ne_nil some_char
    exact List.dropWhile_cons_of_neg (by simpa using begins)
  rw [withoutQuotes_eq, List.cons_append, List.dropWhile_cons_of_pos (by decide), kept,
    List.rdropWhile_concat_pos _ _ _ (by decide),
    rdropWhile_append some_char (by simpa using ends)]

/-- Nothing is left of characters exactly if all of them are quotes. -/
theorem withoutQuotes_eq_nil_iff {chars : List Char} :
    withoutQuotes chars = [] ↔ ∀ c ∈ chars, c = '"' := by
  rw [withoutQuotes_eq, List.rdropWhile_eq_nil_iff]
  constructor
  · intro h
    -- What is left in front would begin with a character that is no quote.
    have none : chars.dropWhile (· = '"') = [] := by
      cases left : chars.dropWhile (· = '"') with
      | nil => rfl
      | cons c rest =>
        have quote := h c (left ▸ List.mem_cons_self)
        have other := List.head?_dropWhile_not (· = '"') chars
        rw [left] at other
        exact absurd quote (by simpa using other)
    simpa using List.dropWhile_eq_nil_iff.1 none
  · intro h
    rw [List.dropWhile_eq_nil_iff.2 (by simpa using h)]
    exact List.forall_mem_nil _

/-- The value of a name is what the first line that sets it has between quotes. -/
theorem value_of_firstSets {text : String} (isName : IsName name)
    (h : FirstSets name (linesOf text) raw) :
    (ofText text).value name = String.ofList (withoutQuotes raw) := by
  rw [value_ofText, lookup?_of_firstSets isName h]
  rfl

/-- A name has an empty value exactly if the lines leave it out. -/
theorem value_eq_empty_iff {text : String} (isName : IsName name) :
    (ofText text).value name = "" ↔ LeavesOut name (linesOf text) := by
  constructor
  · intro empty raw first
    rw [value_of_firstSets isName first, String.ofList_eq_empty_iff] at empty
    exact withoutQuotes_eq_nil_iff.1 empty
  · intro h
    by_cases found : ∃ raw, FirstSets name (linesOf text) raw
    · obtain ⟨raw, first⟩ := found
      rw [value_of_firstSets isName first, withoutQuotes_eq_nil_iff.2 (h raw first)]
    · rw [value_ofText, lookup?_of_forall_not_firstSets isName (not_exists.1 found)]
      rfl

end Release

end Subscription
