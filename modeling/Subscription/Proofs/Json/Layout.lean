import Subscription.Json.Printer

/-!
# Both written forms as layouts of one

The compact and the indented form write the same characters and differ only in the blanks in front
of items and members, in front of closing brackets, and behind colons. A `Json.Layout` says which
blanks these are, so what holds of `Json.Layout.chars` holds of both forms
(`prettyChars_eq_chars`, `compactChars_eq_chars`).
-/

namespace Subscription

namespace Json

/-- The blanks of a written form. -/
structure Layout where
  /-- In front of an item, a member or a closing bracket, by nesting depth. -/
  gap : Nat → List Char
  /-- Behind a colon. -/
  space : List Char
  blank_gap : ∀ indent, ∀ c ∈ gap indent, c = '\n' ∨ c = ' '
  blank_space : ∀ c ∈ space, c = ' '

namespace Layout

/-- No blanks at all. -/
def dense : Layout where
  gap _ := []
  space := []
  blank_gap _ := List.forall_mem_nil _
  blank_space := List.forall_mem_nil _

/-- A line for each item and member. -/
def indented : Layout where
  gap := newLine
  space := [' ']
  blank_gap indent := by
    rw [newLine, List.forall_mem_cons]
    exact ⟨.inl rfl, fun c mem => .inr (List.eq_of_mem_replicate mem)⟩
  blank_space := by simp

@[simp] theorem gap_dense (indent : Nat) : dense.gap indent = [] := rfl

@[simp] theorem space_dense : dense.space = [] := rfl

@[simp] theorem gap_indented (indent : Nat) : indented.gap indent = newLine indent := rfl

@[simp] theorem space_indented : indented.space = [' '] := rfl

mutual

/-- The characters of a value at a nesting depth. Empty arrays and objects have no blanks. -/
def chars (layout : Layout) (indent : Nat) : Json → List Char
  | .null => "null".toList
  | .bool true => "true".toList
  | .bool false => "false".toList
  | .number value => value.text.toList
  | .string text => quoted text
  | .array [] => ['[', ']']
  | .array (item :: rest) =>
    '[' :: (layout.gap (indent + 1) ++ (layout.chars (indent + 1) item ++
      (layout.moreItems (indent + 1) rest ++ (layout.gap indent ++ [']']))))
  | .object [] => ['{', '}']
  | .object ((key, value) :: rest) =>
    '{' :: (layout.gap (indent + 1) ++ (quoted key ++ ':' :: (layout.space ++
      (layout.chars (indent + 1) value ++
        (layout.moreMembers (indent + 1) rest ++ (layout.gap indent ++ ['}']))))))

/-- Items behind another one. -/
def moreItems (layout : Layout) (indent : Nat) : List Json → List Char
  | [] => []
  | item :: rest =>
    ',' :: (layout.gap indent ++ (layout.chars indent item ++ layout.moreItems indent rest))

/-- Members behind another one. -/
def moreMembers (layout : Layout) (indent : Nat) : List (String × Json) → List Char
  | [] => []
  | (key, value) :: rest =>
    ',' :: (layout.gap indent ++ (quoted key ++ ':' :: (layout.space ++
      (layout.chars indent value ++ layout.moreMembers indent rest))))

end

end Layout

open Layout

/-! ### The two forms -/

mutual

/-- The indented form is a layout. -/
theorem prettyChars_eq_chars (indent : Nat) :
    (value : Json) → value.prettyChars indent = indented.chars indent value
  | .null | .bool true | .bool false | .number _ | .string _ | .array [] | .object [] => by
    simp [prettyChars, chars]
  | .array (item :: rest) => by
    have items := prettyItems_eq_moreItems (indent + 1) (item :: rest) (List.cons_ne_nil _ _)
    rw [moreItems, List.cons_inj_right] at items
    simp [prettyChars, chars, items]
  | .object ((key, value) :: rest) => by
    have members := prettyMembers_eq_moreMembers (indent + 1) ((key, value) :: rest)
      (List.cons_ne_nil _ _)
    rw [moreMembers, List.cons_inj_right] at members
    simp [prettyChars, chars, members]

/-- The items of the indented layout, with a comma in front of the first one. -/
theorem prettyItems_eq_moreItems (indent : Nat) : (items : List Json) → items ≠ [] →
    ',' :: prettyItems indent items = indented.moreItems indent items
  | [], h => absurd rfl h
  | [item], _ => by
    simp [prettyItems, moreItems, prettyChars_eq_chars indent item]
  | item :: next :: rest, _ => by
    rw [prettyItems, prettyChars_eq_chars indent item,
      prettyItems_eq_moreItems indent (next :: rest) (List.cons_ne_nil _ _), moreItems,
      List.append_assoc]
    · rfl
    · simp

theorem prettyMembers_eq_moreMembers (indent : Nat) : (members : List (String × Json)) →
    members ≠ [] → ',' :: prettyMembers indent members = indented.moreMembers indent members
  | [], h => absurd rfl h
  | [(key, value)], _ => by
    simp [prettyMembers, moreMembers, prettyChars_eq_chars indent value]
  | (key, value) :: next :: rest, _ => by
    rw [prettyMembers, prettyChars_eq_chars indent value,
      prettyMembers_eq_moreMembers indent (next :: rest) (List.cons_ne_nil _ _)]
    · conv => rhs; rw [moreMembers]
      simp
    · simp

end

mutual

/-- The compact form is a layout. -/
theorem compactChars_eq_chars (indent : Nat) :
    (value : Json) → value.compactChars = dense.chars indent value
  | .null | .bool true | .bool false | .number _ | .string _ | .array [] | .object [] => by
    simp [compactChars, compactItems, compactMembers, chars]
  | .array (item :: rest) => by
    have items := compactItems_eq_moreItems (indent + 1) (item :: rest) (List.cons_ne_nil _ _)
    rw [moreItems, List.cons_inj_right] at items
    simp [compactChars, chars, items]
  | .object ((key, value) :: rest) => by
    have members := compactMembers_eq_moreMembers (indent + 1) ((key, value) :: rest)
      (List.cons_ne_nil _ _)
    rw [moreMembers, List.cons_inj_right] at members
    simp [compactChars, chars, members]

/-- The items of the dense layout, with a comma in front of the first one. -/
theorem compactItems_eq_moreItems (indent : Nat) : (items : List Json) → items ≠ [] →
    ',' :: compactItems items = dense.moreItems indent items
  | [], h => absurd rfl h
  | [item], _ => by
    simp [compactItems, moreItems, compactChars_eq_chars indent item]
  | item :: next :: rest, _ => by
    rw [compactItems, compactChars_eq_chars indent item,
      compactItems_eq_moreItems indent (next :: rest) (List.cons_ne_nil _ _), moreItems]
    · rfl
    · simp

theorem compactMembers_eq_moreMembers (indent : Nat) : (members : List (String × Json)) →
    members ≠ [] → ',' :: compactMembers members = dense.moreMembers indent members
  | [], h => absurd rfl h
  | [(key, value)], _ => by
    simp [compactMembers, moreMembers, compactChars_eq_chars indent value]
  | (key, value) :: next :: rest, _ => by
    rw [compactMembers, compactChars_eq_chars indent value,
      compactMembers_eq_moreMembers indent (next :: rest) (List.cons_ne_nil _ _)]
    · conv => rhs; rw [moreMembers]
      simp
    · simp

end

end Json

end Subscription
