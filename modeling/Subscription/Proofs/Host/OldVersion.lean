import Subscription.Proofs.Host.Assignments
import Subscription.Proofs.Text.Characters
import Subscription.Proofs.Text.LowerLetters

/-!
# The name of a series in a version

A version of an older release has the name of the series behind the release number, an optional LTS,
an optional comma, a space and an optional parenthesis. The letters LTS could begin a name as well,
so there are two ways to read what follows the number. They do not compete: where LTS does not stand
for itself, no name comes behind these letters (`Release.OldVersion.bind_nameAfter?_eq_none`). So
the name is found in every version of this form (`Release.OldVersion.seriesInVersion?_chars`), also
in one that stood between quotes (`Release.OldVersion.withoutQuotes_chars`).
-/

namespace Subscription

namespace Release

/-! ### Versions of older releases -/

/-- A part of a text that may be left out. -/
def optional (there : Bool) (part : List Char) : List Char := if there then part else []

/-- A version of the form that older releases have, as in `14.04.5 LTS, Trusty Tahr`. -/
structure OldVersion where
  /-- The parts of the release number. -/
  numbers : List (List Char)
  /-- Whether LTS stands behind the number. -/
  longTerm : Bool
  comma : Bool
  parenthesis : Bool
  /-- The name of the series. -/
  name : List Char
  /-- What stands behind the name. -/
  rest : List Char
  two_le_numbers : 2 ≤ numbers.length
  digits : ∀ number ∈ numbers, number ≠ [] ∧ ∀ c ∈ number, c.isDigit
  name_ne_nil : name ≠ []
  letters : ∀ c ∈ name, c.isAlpha
  stops : ∀ c ∈ rest.head?, ¬c.isAlpha
  /-- Right behind the number and a space the letters LTS are not a name. -/
  marked : name = "LTS".toList → longTerm ∨ comma ∨ parenthesis

namespace OldVersion

/-- What stands behind the number and LTS. -/
def named (version : OldVersion) : List Char :=
  optional version.comma [','] ++
    ' ' :: (optional version.parenthesis ['('] ++ (version.name ++ version.rest))

/-- What stands behind the number. -/
def behind (version : OldVersion) : List Char :=
  optional version.longTerm " LTS".toList ++ version.named

/-- The whole version. -/
def chars (version : OldVersion) : List Char :=
  ['.'].intercalate version.numbers ++ version.behind

end OldVersion

/-! ### Names -/

theorem behind?_eq_none {c : Char} {chars : List Char} (h : chars.head? ≠ some c) :
    behind? [c] chars = none := by
  cases found : behind? [c] chars with
  | none => rfl
  | some rest =>
    rw [behind?_eq_some_iff.1 found] at h
    exact absurd rfl h

theorem skip_of_head?_ne {c : Char} {chars : List Char} (h : chars.head? ≠ some c) :
    skip c chars = chars := by
  rw [skip, behind?_eq_none h, Option.getD_none]

/-- A mark that may be left out is skipped where it stands. -/
theorem skip_optional {c : Char} {chars : List Char} (there : Bool) (h : chars.head? ≠ some c) :
    skip c (optional there [c] ++ chars) = chars := by
  cases there with
  | false => exact skip_of_head?_ne h
  | true =>
    have found : behind? [c] (optional true [c] ++ chars) = some chars :=
      behind?_eq_some_iff.2 rfl
    rw [skip, found, Option.getD_some]

/-- A name is taken up to the first character that is no letter. -/
theorem letters?_append {name rest : List Char} (some_letter : name ≠ [])
    (letters : ∀ c ∈ name, c.isAlpha) (stops : ∀ c ∈ rest.head?, ¬c.isAlpha) :
    letters? (name ++ rest) = some name := by
  have taken : (name ++ rest).takeWhile isLetter = name := takeWhile_append_of_stops letters stops
  rw [letters?, taken]
  split
  · exact absurd rfl some_letter
  · rfl

/-- A letter right behind the number is not the beginning of a name. -/
theorem nameAfter?_of_letter {c : Char} (h : c.isAlpha) (rest : List Char) :
    nameAfter? (c :: rest) = none := by
  have other {d : Char} (different : ¬d.isAlpha) : (c :: rest).head? ≠ some d := by
    intro same
    exact different (Option.some.inj same ▸ h)
  rw [nameAfter?, skip_of_head?_ne (other (by decide)), behind?_eq_none (other (by decide))]
  rfl

/-- Behind the letters LTS in front of a name and what ends it no name comes: a longer name goes on
with a letter there, and a shorter one would not end where it does. -/
theorem nameAfter?_eq_none_of_append {name rest remainder : List Char}
    (letters : ∀ c ∈ name, c.isAlpha) (stops : ∀ c ∈ rest.head?, ¬c.isAlpha)
    (other : name ≠ "LTS".toList) (whole : name ++ rest = "LTS".toList ++ remainder) :
    nameAfter? remainder = none := by
  rcases List.append_eq_append_iff.1 whole with ⟨more, lts, behind⟩ | ⟨more, longer, behind⟩
  · cases more with
    | nil => exact absurd (by simpa using lts.symm) other
    | cons c more =>
      have alpha : ∀ c ∈ "LTS".toList, c.isAlpha := by decide
      exact absurd (alpha c (by simp [lts])) (stops c (by simp [behind]))
  · cases more with
    | nil => exact absurd (by simpa using longer) other
    | cons c more =>
      rw [behind, List.cons_append]
      exact nameAfter?_of_letter (letters c (by simp [longer])) _

namespace OldVersion

variable (version : OldVersion)

/-- The name is found behind the comma, the space and the parenthesis. -/
theorem nameAfter?_named : nameAfter? version.named = some version.name := by
  have space (chars : List Char) : (' ' :: chars).head? ≠ some ',' := by simp
  have letter : (version.name ++ version.rest).head? ≠ some '(' := by
    obtain ⟨c, others, same⟩ := List.exists_cons_of_ne_nil version.name_ne_nil
    have alpha := version.letters c (same ▸ List.mem_cons_self)
    rw [same]
    intro parenthesis
    obtain rfl : c = '(' := Option.some.inj parenthesis
    exact absurd alpha (by decide)
  have behindSpace (chars : List Char) : behind? [' '] (' ' :: chars) = some chars :=
    behind?_eq_some_iff.2 rfl
  rw [nameAfter?, named, skip_optional _ (space _), behindSpace, Option.bind_eq_bind,
    Option.bind_some, skip_optional _ letter,
    letters?_append version.name_ne_nil version.letters version.stops]

/-- Without LTS behind the number, taking the name for it leads nowhere. -/
theorem bind_nameAfter?_eq_none (h : version.longTerm = false) :
    (behind? " LTS".toList version.named).bind nameAfter? = none := by
  cases found : behind? " LTS".toList version.named with
  | none => rfl
  | some remainder =>
    have same : version.named = ' ' :: ("LTS".toList ++ remainder) := behind?_eq_some_iff.1 found
    have noComma : version.comma = false := by
      cases comma : version.comma with
      | false => rfl
      | true => simp [named, optional, comma] at same
    have noParenthesis : version.parenthesis = false := by
      cases parenthesis : version.parenthesis with
      | false => rfl
      | true => simp [named, optional, noComma, parenthesis] at same
    have other : version.name ≠ "LTS".toList := by
      intro lts
      rcases version.marked lts with there | there | there
      · exact Bool.false_ne_true (h.symm.trans there)
      · exact Bool.false_ne_true (noComma.symm.trans there)
      · exact Bool.false_ne_true (noParenthesis.symm.trans there)
    have whole : version.name ++ version.rest = "LTS".toList ++ remainder := by
      simpa [named, optional, noComma, noParenthesis] using same
    rw [Option.bind_some]
    exact nameAfter?_eq_none_of_append version.letters version.stops other whole

/-- The name is found behind LTS, or right behind the number where there is no LTS. -/
theorem name_behind :
    ((behind? " LTS".toList version.behind).bind nameAfter?).or (nameAfter? version.behind) =
      some version.name := by
  cases longTerm : version.longTerm with
  | true =>
    have found : behind? " LTS".toList version.behind = some version.named :=
      behind?_eq_some_iff.2 (by rw [behind, longTerm]; rfl)
    rw [found, Option.bind_some, version.nameAfter?_named, Option.some_or]
  | false =>
    have same : version.behind = version.named := by rw [behind, longTerm]; rfl
    rw [same, version.bind_nameAfter?_eq_none longTerm, version.nameAfter?_named, Option.none_or]

/-! ### Release numbers -/

theorem isDecimalDigit_of_isDigit {c : Char} (h : c.isDigit) : isDecimalDigit c = true := by
  rw [Char.isDigit, Bool.and_eq_true, decide_eq_true_eq, decide_eq_true_eq, ge_iff_le,
    UInt32.le_iff_toNat_le, UInt32.le_iff_toNat_le] at h
  refine List.any_eq_true.2 ⟨0x30, List.mem_cons_self, ?_⟩
  rw [Bool.and_eq_true, decide_eq_true_eq, decide_eq_true_eq]
  exact h

theorem numbers_ne_nil : version.numbers ≠ [] := by
  intro none
  exact absurd version.two_le_numbers (by rw [none]; decide)

/-- The number of the release ends where its parts do. -/
theorem behindNumber?_chars : behindNumber? version.chars = some version.behind := by
  have inNumber : ∀ c ∈ ['.'].intercalate version.numbers,
      (isDecimalDigit c || c == '.') = true := by
    intro c mem
    rcases mem_intercalate mem with rfl | ⟨number, isNumber, digit⟩
    · rfl
    · rw [isDecimalDigit_of_isDigit ((version.digits number isNumber).2 c digit), Bool.true_or]
  have noDot : ∀ number ∈ version.numbers, '.' ∉ number := by
    intro number isNumber dot
    exact absurd ((version.digits number isNumber).2 '.' dot) (by decide)
  have full : version.numbers.all (!·.isEmpty) = true := by
    rw [List.all_eq_true]
    intro number isNumber
    simpa using (version.digits number isNumber).1
  -- The number ends at the first character that is neither a digit nor a point.
  have stops : ∀ c ∈ version.behind.head?, ¬(isDecimalDigit c || c == '.') := by
    have first : version.behind.head? = some ' ' ∨ version.behind.head? = some ',' := by
      cases longTerm : version.longTerm <;> cases comma : version.comma <;>
        simp [behind, named, optional, longTerm, comma]
    intro c mem
    rcases first with first | first <;>
      (obtain rfl := Option.some.inj (first.symm.trans mem)
       decide)
  have number : version.chars.takeWhile (fun c => isDecimalDigit c || c == '.') =
      ['.'].intercalate version.numbers := takeWhile_append_of_stops inNumber stops
  have behindIt : version.chars.dropWhile (fun c => isDecimalDigit c || c == '.') =
      version.behind := dropWhile_append_of_stops inNumber stops
  have parts := splitAt_intercalate version.numbers_ne_nil noDot
  simp only [behindNumber?, number, behindIt, parts, full, version.two_le_numbers, decide_true,
    Bool.and_self, if_true]

/-- The series in a version is the name in it. -/
theorem seriesInVersion?_chars :
    seriesInVersion? (String.ofList version.chars) =
      some (String.ofList (version.name.map Char.toLower)) := by
  rw [seriesInVersion?, String.toList_ofList, version.behindNumber?_chars, Option.bind_eq_bind,
    Option.bind_some, version.name_behind, Option.bind_some, lowerCase_of_letters version.letters]
  rfl

example : seriesInVersion? "20.04 LTSX (Focal)" = some "ltsx" := by decide

/-! ### Quotes -/

/-- The version up to its name. -/
def front (version : OldVersion) : List Char :=
  ['.'].intercalate version.numbers ++ optional version.longTerm " LTS".toList ++
    optional version.comma [','] ++ ' ' :: optional version.parenthesis ['('] ++ version.name

theorem chars_eq_front : version.chars = version.front ++ version.rest := by
  simp [chars, behind, named, front]

theorem chars_ne_nil : version.chars ≠ [] := by
  simp [chars, behind, named]

/-- The version without the quotes at its end, which are none of its name. -/
def unquoted (version : OldVersion) : OldVersion :=
  { version with
    rest := version.rest.rdropWhile (· = '"')
    stops := by
      intro c mem
      obtain ⟨quotes, whole⟩ := List.rdropWhile_prefix (· = '"') version.rest
      refine version.stops c ?_
      rw [← whole, List.head?_append, Option.mem_def.1 mem]
      rfl }

/-- The quotes around a version are dropped, with those its rest ends with. -/
theorem withoutQuotes_chars :
    withoutQuotes ('"' :: version.chars ++ ['"']) = version.unquoted.chars := by
  have some_char : version.front ≠ [] := by simp [front]
  have begins : version.front.head some_char ≠ '"' := by
    obtain ⟨number, others, numbers⟩ := List.exists_cons_of_ne_nil version.numbers_ne_nil
    obtain ⟨some_digit, digits⟩ := version.digits number (numbers ▸ List.mem_cons_self)
    obtain ⟨digit, more, rfl⟩ := List.exists_cons_of_ne_nil some_digit
    obtain ⟨behind, joined⟩ := exists_intercalate_cons '.' (digit :: more) others
    have first : version.front.head some_char = digit := by
      simp [front, numbers, joined]
    rw [first]
    rintro rfl
    exact absurd (digits '"' List.mem_cons_self) (by decide)
  have ends : version.front.getLast some_char ≠ '"' := by
    have last : version.front.getLast some_char ∈ version.name := by
      simp only [front, List.getLast_append_of_ne_nil _ version.name_ne_nil]
      exact List.getLast_mem version.name_ne_nil
    intro quote
    exact absurd (version.letters _ (quote ▸ last)) (by decide)
  rw [chars_eq_front, withoutQuotes_quoted some_char begins ends, chars_eq_front]
  rfl

end OldVersion

end Release

end Subscription
