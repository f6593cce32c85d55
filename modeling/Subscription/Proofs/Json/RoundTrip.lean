import Subscription.Proofs.Json.Following
import Subscription.Proofs.Json.Sorted

/-!
# Values are read as written

A value whose numbers are whole and whose arrays and objects do not nest too deep is read back from
either of its written forms (`Json.read_pretty`, `Json.read_compact`): part by part the reader makes
of a written value the value itself (`Reader.follows_value`).
-/

namespace Subscription

/-! ### Values that are read back -/

namespace Json

mutual

/-- How deep arrays and objects nest in a value. -/
def depth : Json → Nat
  | .array items => depthOfItems items + 1
  | .object members => depthOfMembers members + 1
  | _ => 0

/-- How deep arrays and objects nest in the values of a list. -/
def depthOfItems : List Json → Nat
  | [] => 0
  | item :: rest => max item.depth (depthOfItems rest)

/-- How deep arrays and objects nest in values under keys. -/
def depthOfMembers : List (String × Json) → Nat
  | [] => 0
  | (_, value) :: rest => max value.depth (depthOfMembers rest)

end

mutual

/-- All numbers in the value are whole. -/
def IsWhole : Json → Prop
  | .number value => value.IsWhole
  | .array items => ItemsWhole items
  | .object members => MembersWhole members
  | _ => True

/-- All numbers in the values of the list are whole. -/
def ItemsWhole : List Json → Prop
  | [] => True
  | item :: rest => item.IsWhole ∧ ItemsWhole rest

/-- All numbers in the values under keys are whole. -/
def MembersWhole : List (String × Json) → Prop
  | [] => True
  | (_, value) :: rest => value.IsWhole ∧ MembersWhole rest

end

theorem itemsWhole_iff (items : List Json) : ItemsWhole items ↔ ∀ item ∈ items, item.IsWhole := by
  induction items with
  | nil => simp [ItemsWhole]
  | cons item rest ih => simp [ItemsWhole, ih]

theorem membersWhole_iff (members : List (String × Json)) :
    MembersWhole members ↔ ∀ entry ∈ members, entry.2.IsWhole := by
  induction members with
  | nil => simp [MembersWhole]
  | cons entry rest ih =>
    obtain ⟨key, value⟩ := entry
    simp [MembersWhole, ih]

theorem depthOfItems_le_iff (items : List Json) (n : Nat) :
    depthOfItems items ≤ n ↔ ∀ item ∈ items, item.depth ≤ n := by
  induction items with
  | nil => simp [depthOfItems]
  | cons item rest ih => rw [depthOfItems, Nat.max_le, ih, List.forall_mem_cons]

theorem depthOfMembers_le_iff (members : List (String × Json)) (n : Nat) :
    depthOfMembers members ≤ n ↔ ∀ entry ∈ members, entry.2.depth ≤ n := by
  induction members with
  | nil => simp [depthOfMembers]
  | cons entry rest ih =>
    obtain ⟨key, value⟩ := entry
    rw [depthOfMembers, Nat.max_le, ih, List.forall_mem_cons]

mutual

/-- A written value nests no deeper than it is long. -/
theorem depth_le_length (layout : Layout) (indent : Nat) :
    (v : Json) → v.depth ≤ (layout.chars indent v).length
  | .null | .bool _ | .number _ | .string _ => by simp [depth]
  | .array [] | .object [] => by simp [depth, depthOfItems, depthOfMembers, Layout.chars]
  | .array (item :: items) => by
    have first := depth_le_length layout (indent + 1) item
    have others := depthOfItems_le_length layout (indent + 1) items
    rw [depth, depthOfItems, Layout.chars]
    simp only [List.length_cons, List.length_append]
    omega
  | .object ((_, v) :: members) => by
    have first := depth_le_length layout (indent + 1) v
    have others := depthOfMembers_le_length layout (indent + 1) members
    rw [depth, depthOfMembers, Layout.chars]
    simp only [List.length_cons, List.length_append]
    omega

/-- To nest deep takes as many bytes at least. -/
theorem depthOfItems_le_length (layout : Layout) (indent : Nat) :
    (items : List Json) → depthOfItems items ≤ (layout.moreItems indent items).length
  | [] => Nat.zero_le _
  | item :: items => by
    have first := depth_le_length layout indent item
    have others := depthOfItems_le_length layout indent items
    rw [depthOfItems, Layout.moreItems]
    simp only [List.length_cons, List.length_append]
    omega

theorem depthOfMembers_le_length (layout : Layout) (indent : Nat) :
    (members : List (String × Json)) →
      depthOfMembers members ≤ (layout.moreMembers indent members).length
  | [] => Nat.zero_le _
  | (_, v) :: members => by
    have first := depth_le_length layout indent v
    have others := depthOfMembers_le_length layout indent members
    rw [depthOfMembers, Layout.moreMembers]
    simp only [List.length_cons, List.length_append]
    omega

end

/-- The value is among those that are read back as they were written. -/
structure Restorable (v : Json) : Prop where
  sorted : v.Sorted
  isWhole : v.IsWhole
  shallow : v.depth ≤ Reader.depthLimit

end Json

namespace Reader

variable {fuel depth : Nat} {bytes rest : List UInt8}

/-! ### Single values -/

/-- Blanks in front of a value do not matter. -/
theorem value_ofChars {front : List Char} (h : ∀ c ∈ front, c = '\n' ∨ c = ' ') :
    value fuel depth (Utf8.ofChars front ++ bytes) = value fuel depth bytes := by
  rw [value.eq_def, value.eq_def fuel depth bytes]
  simp only [skipBlanks_ofChars h]

theorem value_null : value fuel depth (Utf8.ofChars "null".toList ++ rest) = .ok (.null, rest) := by
  rw [value.eq_def]
  rfl

theorem value_bool (b : Bool) : value fuel depth
    (Utf8.ofChars (if b then "true".toList else "false".toList) ++ rest) = .ok (.bool b, rest) := by
  rw [value.eq_def]
  cases b <;> rfl

/-- A whole number is read back as it was written. -/
theorem value_number {number : Number} (isWhole : number.IsWhole)
    (stop : Numeral.endsBefore rest = true) :
    value fuel depth (Utf8.encode number.text ++ rest) = .ok (.number number, rest) := by
  have read := Numeral.read_encode_text isWhole stop
  obtain ⟨byte, more, written, starts⟩ := number.encode_text_eq_cons
  rw [written, List.cons_append] at read ⊢
  obtain ⟨start, notN, notT, notF⟩ := startsValue_of_number starts
  rw [value.eq_def]
  simp only [skipBlanks_cons start, notN, notT, notF, if_false, starts, if_true, read]
  rfl

theorem value_quote : value fuel depth (Ascii.quote :: bytes) = (do
    let (text, rest) ← string bytes
    .ok (.string text, rest)) := by
  rw [value.eq_def]
  rfl

/-- A written string is read back, whatever characters are in it. -/
theorem value_string (text : String) :
    value fuel depth (Utf8.ofChars (Json.quoted text) ++ rest) = .ok (.string text, rest) := by
  rw [ofChars_quoted, value_quote, string_quoted]
  rfl

theorem value_openBracket : value fuel (depth + 1) (Ascii.openBracket :: bytes) = (do
    let (read, rest) ← items (value fuel depth) fuel bytes
    .ok (.array read, rest)) := by
  rw [value.eq_def]
  rfl

theorem value_openBrace : value fuel (depth + 1) (Ascii.openBrace :: bytes) = (do
    let (read, rest) ← members string (value fuel depth) fuel bytes
    .ok (.object (Keyed.ofList read), rest)) := by
  rw [value.eq_def]
  rfl

/-! ### Whole values -/

/-- The reader makes of a written value the value itself, and of a key the key. -/
theorem follows_value : Follows fuel (value fuel) string
    (fun depth v => v.Sorted ∧ v.IsWhole ∧ v.depth ≤ depth) id id where
  blanks blank _ := value_ofChars blank
  leaf {depth v} layout indent isLeaf fit rest stop := by
    match v with
    | .null => exact value_null
    | .bool true => exact value_bool true
    | .bool false => exact value_bool false
    | .string text => exact value_string text
    | .number number => exact value_number fit.2.1 stop
  named text rest := string_quoted text rest
  array {depth items} fit := by
    obtain ⟨sorted, isWhole, shallow⟩ := fit
    rw [Json.Sorted, Json.sortedItems_iff] at sorted
    rw [Json.IsWhole, Json.itemsWhole_iff] at isWhole
    rw [Json.depth] at shallow
    cases depth with
    | zero => exact absurd shallow (Nat.not_succ_le_zero _)
    | succ depth =>
      rw [Nat.add_le_add_iff_right, Json.depthOfItems_le_iff] at shallow
      refine ⟨depth, fun item mem => ⟨sorted _ mem, isWhole _ mem, shallow _ mem⟩, ?_⟩
      intro bytes rest read
      rw [value_openBracket, read, List.map_id]
      rfl
  object {depth members} fit := by
    obtain ⟨sorted, isWhole, shallow⟩ := fit
    rw [Json.Sorted, Json.sortedMembers_iff] at sorted
    rw [Json.IsWhole, Json.membersWhole_iff] at isWhole
    rw [Json.depth] at shallow
    cases depth with
    | zero => exact absurd shallow (Nat.not_succ_le_zero _)
    | succ depth =>
      rw [Nat.add_le_add_iff_right, Json.depthOfMembers_le_iff] at shallow
      refine ⟨depth, fun entry mem => ⟨sorted.2 _ mem, isWhole _ mem, shallow _ mem⟩, ?_⟩
      intro bytes rest read
      have same : members.map (fun entry => (id entry.1, id entry.2)) = members := List.map_id _
      rw [value_openBrace, read, same]
      simp only [bind, Except.bind, sorted.1.ofList_eq, id]

end Reader

namespace Json

/-- A value in a layout is read back, also with blanks behind it. -/
theorem read_chars (layout : Layout) (indent : Nat) {v : Json} (h : v.Restorable)
    {back : List Char} (blank : ∀ c ∈ back, c = '\n' ∨ c = ' ') :
    read (Utf8.ofChars (layout.chars indent v) ++ Utf8.ofChars back) = .ok v := by
  have fits : (layout.chars indent v).length ≤
      (Utf8.ofChars (layout.chars indent v) ++ Utf8.ofChars back).length := by
    rw [List.length_append]
    exact Nat.le_add_right_of_le (Utf8.length_le_ofChars _)
  have stop : Numeral.endsBefore (Utf8.ofChars back) = true := by
    cases back with
    | nil => rfl
    | cons c back => rcases (List.forall_mem_cons.1 blank).1 with rfl | rfl <;> rfl
  have finished : Reader.finish (Utf8.ofChars back) = .ok () := by
    have skipped := Reader.skipBlanks_ofChars blank []
    rw [List.append_nil] at skipped
    rw [Reader.finish, skipped]
    rfl
  have value_read := Reader.follows_value.value_chars layout indent
    ⟨h.sorted, h.isWhole, h.shallow⟩ fits stop
  simp only [read, bind, Except.bind, value_read, finished]
  rfl

/-- **Reading undoes writing**, for the indented form with a line break behind it. -/
theorem read_pretty {v : Json} (h : v.Restorable) :
    read (Utf8.encode v.pretty ++ Utf8.encode "\n") = .ok v := by
  rw [pretty, Utf8.encode_ofList, prettyChars_eq_chars]
  exact read_chars .indented 0 h (by decide)

/-- Reading undoes writing, for the compact form. -/
theorem read_compact {v : Json} (h : v.Restorable) : read (Utf8.encode v.compact) = .ok v := by
  have whole := read_chars .dense 0 h (List.forall_mem_nil _)
  rwa [Utf8.ofChars_nil, List.append_nil, ← compactChars_eq_chars, ← Utf8.encode_ofList] at whole

end Json

end Subscription
