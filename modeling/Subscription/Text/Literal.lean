/-!
# Words and separators

Taking a fixed word off the front of a text, and cutting a text at a separator.
-/

namespace Subscription

/-- The characters behind a word, if the word stands in front. -/
def behind? : (word : List Char) → List Char → Option (List Char)
  | [], chars => some chars
  | _ :: _, [] => none
  | letter :: word, c :: rest => if letter = c then behind? word rest else none

/-- What stands behind a word is the text without it. -/
theorem behind?_eq_some_iff {word chars rest : List Char} :
    behind? word chars = some rest ↔ chars = word ++ rest := by
  induction word generalizing chars with
  | nil => simp [behind?]
  | cons letter word ih =>
    cases chars with
    | nil => simp [behind?]
    | cons c chars =>
      by_cases h : letter = c
      · simp [behind?, h, ih]
      · simp [behind?, h, Ne.symm h]

/-- The parts of a text between the separators in it; without any, the whole text. -/
def splitAt (separator : Char) : List Char → List (List Char)
  | [] => [[]]
  | c :: rest =>
    if c = separator then [] :: splitAt separator rest
    else
      match splitAt separator rest with
      | [] => [[c]]
      | part :: parts => (c :: part) :: parts

end Subscription
