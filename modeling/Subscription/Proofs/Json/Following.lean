import Subscription.Proofs.Json.Decimals
import Subscription.Proofs.Json.Layout
import Subscription.Proofs.Json.Strings

/-!
# Readers that follow a written value

Two readers go over JSON text: one for values, one for outlines. They share the loops over items and
members and differ in what they make of numbers, keys and whole objects. `Reader.Follows` says of a
reader what it makes of a written value part by part; then it does so of the whole, and stops behind
it (`Reader.Follows.value_chars`).

The reader is followed through the written text value by value, with whatever stands behind each
value. Numbers alone need that what stands behind them does not go on with them; in a written text
that is a comma, a bracket, a blank or nothing.
-/

namespace Subscription

/-- Values without items and members. -/
def Json.IsLeaf : Json → Prop
  | .array _ | .object _ => False
  | _ => True

namespace Reader

variable {fuel : Nat} {bytes rest : List UInt8}

/-! ### Blanks and first bytes -/

/-- Blanks in front are skipped. -/
theorem skipBlanks_ofChars {front : List Char} (h : ∀ c ∈ front, c = '\n' ∨ c = ' ')
    (bytes : List UInt8) : skipBlanks (Utf8.ofChars front ++ bytes) = skipBlanks bytes := by
  induction front with
  | nil => rfl
  | cons c front ih =>
    obtain ⟨first, others⟩ := List.forall_mem_cons.1 h
    rw [Utf8.ofChars_cons, List.append_assoc]
    rcases first with rfl | rfl
    · exact ih others
    · exact ih others

/-- Whether a byte is the first one of a value. -/
def startsValue (byte : UInt8) : Bool :=
  byte ∈ [Ascii.letterN, Ascii.letterT, Ascii.letterF, Ascii.quote, Ascii.openBracket,
    Ascii.openBrace] || (byte = Ascii.minus || Ascii.isDigit byte)

theorem skipBlanks_cons {byte : UInt8} (h : startsValue byte = true) (more : List UInt8) :
    skipBlanks (byte :: more) = byte :: more := by
  refine List.dropWhile_cons_of_neg fun blank => ?_
  simp only [isBlank, Bool.or_eq_true, beq_iff_eq] at blank
  rcases blank with ((rfl | rfl) | rfl) | rfl <;> exact absurd h (by decide)

/-- The first byte of a number is the first one of a value, and begins no word. -/
theorem startsValue_of_number {byte : UInt8}
    (h : (byte = Ascii.minus || Ascii.isDigit byte) = true) : startsValue byte = true ∧
      byte ≠ Ascii.letterN ∧ byte ≠ Ascii.letterT ∧ byte ≠ Ascii.letterF := by
  refine ⟨by rw [startsValue, h, Bool.or_true], ?_, ?_, ?_⟩
  all_goals
    rintro rfl
    exact absurd h (by decide)

/-- Whether bytes begin like a value. -/
def starts (bytes : List UInt8) : Bool := bytes.head?.any startsValue

theorem ne_closeBracket {byte : UInt8} (h : startsValue byte = true) :
    byte ≠ Ascii.closeBracket := by
  rintro rfl
  exact absurd h (by decide)

/-- A numeral ends in front of blanks, commas and closing brackets. -/
theorem endsBefore_ofChars {front : List Char} (h : ∀ c ∈ front, c = '\n' ∨ c = ' ') {byte : UInt8}
    (stop : byte ∈ [Ascii.comma, Ascii.closeBracket, Ascii.closeBrace]) (rest : List UInt8) :
    Numeral.endsBefore (Utf8.ofChars front ++ byte :: rest) = true := by
  cases front with
  | nil =>
    simp only [List.mem_cons, List.not_mem_nil, or_false] at stop
    rcases stop with rfl | rfl | rfl <;> rfl
  | cons c front =>
    rcases (List.forall_mem_cons.1 h).1 with rfl | rfl <;> rfl

theorem ofChars_quoted (text : String) : Utf8.ofChars (Json.quoted text) ++ rest =
    Ascii.quote :: (Utf8.ofChars (text.toList.flatMap Json.escape) ++ Ascii.quote :: rest) := by
  have quote : Utf8.ofChars ['"'] = [Ascii.quote] := by decide
  rw [Json.quoted, List.cons_append, Utf8.ofChars_cons, Utf8.ofChars_append, quote]
  simp only [List.append_assoc]
  rfl

/-! ### Arrays -/

theorem moreItems_cons {α : Type} (item : Reading α) (bytes : List UInt8) :
    moreItems item (fuel + 1) (Ascii.comma :: bytes) =
      (match skipBlanks bytes with
      | [] => Stop.on .endInValue []
      | Ascii.closeBracket :: rest => Stop.before .trailingComma rest
      | rest => do
        let (value, rest) ← item rest
        let (values, rest) ← moreItems item fuel rest
        .ok (value :: values, rest)) := rfl

section Loops

variable {α : Type} {front : List Char} (blank : ∀ c ∈ front, c = '\n' ∨ c = ' ')
include blank

/-- A closing bracket ends the items, also behind blanks. -/
theorem moreItems_close (item : Reading α) :
    moreItems item (fuel + 1) (Utf8.ofChars front ++ Ascii.closeBracket :: rest) =
      .ok ([], rest) := by
  rw [moreItems]
  simp only [skipBlanks_ofChars blank]
  rfl

/-- The first item, and those behind it. -/
theorem items_start (item : Reading α) (start : starts bytes = true) :
    items item fuel (Utf8.ofChars front ++ bytes) = (do
      let (value, rest) ← item bytes
      let (values, rest) ← moreItems item fuel rest
      .ok (value :: values, rest)) := by
  cases bytes with
  | nil => cases start
  | cons byte more =>
    rw [items, skipBlanks_ofChars blank, skipBlanks_cons start]
    split
    · next none => cases none
    · next closed => exact absurd (List.cons.inj closed).1 (ne_closeBracket start)
    · rfl

/-- The first item of an array is read, and then the others. -/
theorem items_ofChars {item : Reading α} (start : starts bytes = true) {value : α}
    {values : List α} {middle : List UInt8} (first : item bytes = .ok (value, middle))
    (others : moreItems item fuel middle = .ok (values, rest)) :
    items item fuel (Utf8.ofChars front ++ bytes) = .ok (value :: values, rest) := by
  rw [items_start blank item start]
  simp only [bind, Except.bind, first, others]

/-- Behind a comma stand items as at the start of an array. -/
theorem moreItems_comma (item : Reading α) (start : starts bytes = true) :
    moreItems item (fuel + 1) (Ascii.comma :: (Utf8.ofChars front ++ bytes)) =
      items item fuel (Utf8.ofChars front ++ bytes) := by
  rw [items_start blank item start]
  cases bytes with
  | nil => cases start
  | cons byte more =>
    rw [moreItems_cons, skipBlanks_ofChars blank, skipBlanks_cons start]
    split
    · next none => cases none
    · next closed => exact absurd (List.cons.inj closed).1 (ne_closeBracket start)
    · rfl

end Loops

/-! ### Objects -/

theorem moreMembers_cons {α κ : Type} (key : Reading κ) (value : Reading α) (bytes : List UInt8) :
    moreMembers key value (fuel + 1) (Ascii.comma :: bytes) =
      (match skipBlanks bytes with
      | [] => Stop.on .endInValue []
      | Ascii.quote :: rest => do
        let (first, rest) ← member key value rest
        let (others, rest) ← moreMembers key value fuel rest
        .ok (first :: others, rest)
      | Ascii.closeBrace :: rest => Stop.before .trailingComma rest
      | _ :: rest => Stop.before .keyExpected rest) := rfl

section Loops

variable {α κ : Type} {front : List Char} (blank : ∀ c ∈ front, c = '\n' ∨ c = ' ')
include blank

/-- A closing brace ends the members, also behind blanks. -/
theorem moreMembers_close (key : Reading κ) (value : Reading α) :
    moreMembers key value (fuel + 1) (Utf8.ofChars front ++ Ascii.closeBrace :: rest) =
      .ok ([], rest) := by
  rw [moreMembers]
  simp only [skipBlanks_ofChars blank]
  rfl

/-- The first member, and those behind it. -/
theorem members_ofChars {key : Reading κ} {value : Reading α} {first : κ × α}
    {others : List (κ × α)} {middle : List UInt8}
    (read : member key value bytes = .ok (first, middle))
    (more : moreMembers key value fuel middle = .ok (others, rest)) :
    members key value fuel (Utf8.ofChars front ++ Ascii.quote :: bytes) =
      .ok (first :: others, rest) := by
  rw [members, skipBlanks_ofChars blank]
  change ((member key value bytes).bind fun first =>
    (moreMembers key value fuel first.2).bind fun others =>
      .ok (first.1 :: others.1, others.2)) = _
  simp only [read, more, Except.bind]

/-- Behind a comma stand members as at the start of an object. -/
theorem moreMembers_comma (key : Reading κ) (value : Reading α) (bytes : List UInt8) :
    moreMembers key value (fuel + 1)
        (Ascii.comma :: (Utf8.ofChars front ++ Ascii.quote :: bytes)) =
      members key value fuel (Utf8.ofChars front ++ Ascii.quote :: bytes) := by
  rw [moreMembers_cons, members, skipBlanks_ofChars blank]
  rfl

end Loops

/-! ### Written values -/

open Json (Layout)

/-- A written value begins like one. -/
theorem starts_chars (layout : Layout) (indent : Nat) (v : Json) (rest : List UInt8) :
    starts (Utf8.ofChars (layout.chars indent v) ++ rest) = true := by
  match v with
  | .null | .bool true | .bool false | .string _ | .array [] | .object [] => rfl
  | .array (_ :: _) | .object (_ :: _) => rfl
  | .number number =>
    obtain ⟨byte, more, written, start⟩ := number.encode_text_eq_cons
    have first : Utf8.ofChars (layout.chars indent (.number number)) = byte :: more := written
    rw [first, starts, List.cons_append, List.head?_cons, Option.any_some, startsValue, start,
      Bool.or_true]

section Behind

variable (layout : Layout) (indent : Nat)

/-- The bytes of the items behind another one, up to the end of the array, and what follows. -/
def itemsBehind (items : List Json) (front : List Char) (rest : List UInt8) : List UInt8 :=
  Utf8.ofChars (layout.moreItems indent items) ++
    (Utf8.ofChars front ++ Ascii.closeBracket :: rest)

/-- The bytes of the members behind another one, up to the end of the object, and what follows. -/
def membersBehind (members : List (String × Json)) (front : List Char) (rest : List UInt8) :
    List UInt8 :=
  Utf8.ofChars (layout.moreMembers indent members) ++
    (Utf8.ofChars front ++ Ascii.closeBrace :: rest)

/-- The next item stands behind a comma and the gap of its level. -/
theorem itemsBehind_cons (item : Json) (items : List Json) (front : List Char)
    (rest : List UInt8) : itemsBehind layout indent (item :: items) front rest =
      Ascii.comma :: (Utf8.ofChars (layout.gap indent) ++
        (Utf8.ofChars (layout.chars indent item) ++
          itemsBehind layout indent items front rest)) := by
  simp only [itemsBehind, Layout.moreItems, Utf8.ofChars_cons, Utf8.ofChars_append,
    List.append_assoc]
  rfl

/-- An array that is not empty, as the bytes a reader meets one after the other. -/
theorem ofChars_array (item : Json) (items : List Json) (rest : List UInt8) :
    Utf8.ofChars (layout.chars indent (.array (item :: items))) ++ rest =
      Ascii.openBracket :: (Utf8.ofChars (layout.gap (indent + 1)) ++
        (Utf8.ofChars (layout.chars (indent + 1) item) ++
          itemsBehind layout (indent + 1) items (layout.gap indent) rest)) := by
  simp only [itemsBehind, Layout.chars, Utf8.ofChars_cons, Utf8.ofChars_append, List.append_assoc]
  rfl

theorem membersBehind_cons (key : String) (v : Json) (members : List (String × Json))
    (front : List Char) (rest : List UInt8) :
    membersBehind layout indent ((key, v) :: members) front rest =
      Ascii.comma :: (Utf8.ofChars (layout.gap indent) ++ Ascii.quote ::
        (Utf8.ofChars (key.toList.flatMap Json.escape) ++ Ascii.quote :: Ascii.colon ::
          (Utf8.ofChars layout.space ++ (Utf8.ofChars (layout.chars indent v) ++
            membersBehind layout indent members front rest)))) := by
  simp only [membersBehind, Layout.moreMembers, Json.quoted, Utf8.ofChars_cons,
    Utf8.ofChars_append, List.append_assoc]
  rfl

theorem ofChars_object (key : String) (v : Json) (members : List (String × Json))
    (rest : List UInt8) :
    Utf8.ofChars (layout.chars indent (.object ((key, v) :: members))) ++ rest =
      Ascii.openBrace :: (Utf8.ofChars (layout.gap (indent + 1)) ++ Ascii.quote ::
        (Utf8.ofChars (key.toList.flatMap Json.escape) ++ Ascii.quote :: Ascii.colon ::
          (Utf8.ofChars layout.space ++ (Utf8.ofChars (layout.chars (indent + 1) v) ++
            membersBehind layout (indent + 1) members (layout.gap indent) rest)))) := by
  simp only [membersBehind, Layout.chars, Json.quoted, Utf8.ofChars_cons, Utf8.ofChars_append,
    List.append_assoc]
  rfl

/-- A numeral ends in front of items behind it. -/
theorem endsBefore_itemsBehind (items : List Json) {front : List Char}
    (blank : ∀ c ∈ front, c = '\n' ∨ c = ' ') (rest : List UInt8) :
    Numeral.endsBefore (itemsBehind layout indent items front rest) = true := by
  cases items with
  | nil => exact endsBefore_ofChars blank (by decide) rest
  | cons => rfl

/-- A numeral ends in front of members behind it. -/
theorem endsBefore_membersBehind (members : List (String × Json)) {front : List Char}
    (blank : ∀ c ∈ front, c = '\n' ∨ c = ' ') (rest : List UInt8) :
    Numeral.endsBefore (membersBehind layout indent members front rest) = true := by
  cases members with
  | nil => exact endsBefore_ofChars blank (by decide) rest
  | cons => rfl

/-- Every item takes a byte at least, so that the length of a text is enough fuel for its items. -/
theorem length_le_moreItems (items : List Json) :
    items.length ≤ (layout.moreItems indent items).length := by
  induction items with
  | nil => exact Nat.le_refl _
  | cons item items ih =>
    simp only [Layout.moreItems, List.length_cons, List.length_append]
    omega

/-- Every member takes a byte at least, so that the length of a text is enough fuel for its
members. -/
theorem length_le_moreMembers (members : List (String × Json)) :
    members.length ≤ (layout.moreMembers indent members).length := by
  induction members with
  | nil => exact Nat.le_refl _
  | cons entry members ih =>
    simp only [Layout.moreMembers, List.length_cons, List.length_append]
    omega

end Behind

/-! ### Part by part -/

/-- What a reader makes of written values part by part: `make` of each value that is fit for the
depth left, and `name` of each key. -/
structure Follows {α κ : Type} (fuel : Nat) (value : Nat → Reading α) (key : Reading κ)
    (Fit : Nat → Json → Prop) (make : Json → α) (name : String → κ) : Prop where
  blanks {depth : Nat} {front : List Char} (blank : ∀ c ∈ front, c = '\n' ∨ c = ' ')
    (bytes : List UInt8) : value depth (Utf8.ofChars front ++ bytes) = value depth bytes
  leaf {depth : Nat} {v : Json} (layout : Layout) (indent : Nat) (isLeaf : v.IsLeaf)
    (fit : Fit depth v) {rest : List UInt8} (stop : Numeral.endsBefore rest = true) :
    value depth (Utf8.ofChars (layout.chars indent v) ++ rest) = .ok (make v, rest)
  named (text : String) (rest : List UInt8) :
    key (Utf8.ofChars (text.toList.flatMap Json.escape) ++ Ascii.quote :: rest) =
      .ok (name text, rest)
  array {depth : Nat} {items : List Json} (fit : Fit depth (.array items)) :
    ∃ inner, (∀ item ∈ items, Fit inner item) ∧ ∀ bytes rest,
      Reader.items (value inner) fuel bytes = .ok (items.map make, rest) →
        value depth (Ascii.openBracket :: bytes) = .ok (make (.array items), rest)
  object {depth : Nat} {members : List (String × Json)} (fit : Fit depth (.object members)) :
    ∃ inner, (∀ entry ∈ members, Fit inner entry.2) ∧ ∀ bytes rest,
      Reader.members key (value inner) fuel bytes =
          .ok (members.map fun entry => (name entry.1, make entry.2), rest) →
        value depth (Ascii.openBrace :: bytes) = .ok (make (.object members), rest)

namespace Follows

variable {α κ : Type} {value : Nat → Reading α} {key : Reading κ} {Fit : Nat → Json → Prop}
  {make : Json → α} {name : String → κ}

/-- A written key, and the value behind its colon. -/
theorem member_quoted (follows : Follows fuel value key Fit make name) (text : String)
    {front : List Char} (blank : ∀ c ∈ front, c = ' ') {depth : Nat} {v : Json}
    (read : value depth bytes = .ok (make v, rest)) :
    member key (value depth) (Utf8.ofChars (text.toList.flatMap Json.escape) ++
      Ascii.quote :: Ascii.colon :: (Utf8.ofChars front ++ bytes)) =
        .ok ((name text, make v), rest) := by
  have behind : afterColon (value depth) (Ascii.colon :: (Utf8.ofChars front ++ bytes)) =
      value depth (Utf8.ofChars front ++ bytes) := rfl
  rw [member, follows.named]
  simp only [bind, Except.bind, behind, follows.blanks fun c mem => .inr (blank c mem), read]

mutual

/-- A written value is followed to its end, and nothing behind it is read. -/
theorem value_chars (follows : Follows fuel value key Fit make name) (layout : Layout)
    (indent : Nat) {v : Json} {depth : Nat} (fit : Fit depth v)
    (fits : (layout.chars indent v).length ≤ fuel) {rest : List UInt8}
    (stop : Numeral.endsBefore rest = true) :
    value depth (Utf8.ofChars (layout.chars indent v) ++ rest) = .ok (make v, rest) := by
  match v with
  | .null | .bool _ | .string _ | .number _ =>
    exact follows.leaf layout indent (by trivial) fit stop
  | .array [] =>
    obtain ⟨inner, -, read⟩ := follows.array fit
    exact read _ rest rfl
  | .object [] =>
    obtain ⟨inner, -, read⟩ := follows.object fit
    exact read _ rest rfl
  | .array (item :: items) =>
    obtain ⟨inner, fit, read⟩ := follows.array fit
    obtain ⟨first, others⟩ := List.forall_mem_cons.1 fit
    rw [Layout.chars] at fits
    simp only [List.length_cons, List.length_append] at fits
    -- The text has a character for each item behind the first, so the count of steps suffices.
    have enough := length_le_moreItems layout (indent + 1) items
    have blank := layout.blank_gap indent
    have item_read := follows.value_chars layout (indent + 1) first (by omega)
      (endsBefore_itemsBehind layout (indent + 1) items blank rest)
    have items_read := follows.moreItems_chars layout (indent + 1) fuel others (by omega)
      (by omega) blank rest
    rw [ofChars_array]
    exact read _ rest (items_ofChars (layout.blank_gap _) (starts_chars layout (indent + 1) item _)
      item_read items_read)
  | .object ((text, v) :: members) =>
    obtain ⟨inner, fit, read⟩ := follows.object fit
    obtain ⟨first, others⟩ := List.forall_mem_cons.1 fit
    rw [Layout.chars] at fits
    simp only [List.length_cons, List.length_append] at fits
    have enough := length_le_moreMembers layout (indent + 1) members
    have blank := layout.blank_gap indent
    have value_read := follows.value_chars (v := v) layout (indent + 1) first (by omega)
      (endsBefore_membersBehind layout (indent + 1) members blank rest)
    have member_read := follows.member_quoted text layout.blank_space value_read
    have members_read := follows.moreMembers_chars layout (indent + 1) fuel others (by omega)
      (by omega) blank rest
    rw [ofChars_object]
    exact read _ rest (members_ofChars (layout.blank_gap _) member_read members_read)

/-- The items behind another one are read as they were written. -/
theorem moreItems_chars (follows : Follows fuel value key Fit make name) (layout : Layout)
    (indent count : Nat) {items : List Json} {depth : Nat} (fit : ∀ item ∈ items, Fit depth item)
    (fits : (layout.moreItems indent items).length ≤ fuel) (enough : items.length < count)
    {front : List Char} (blank : ∀ c ∈ front, c = '\n' ∨ c = ' ') (rest : List UInt8) :
    moreItems (value depth) count (itemsBehind layout indent items front rest) =
      .ok (items.map make, rest) := by
  match items, count with
  | [], count + 1 => exact moreItems_close blank _
  | item :: items, count + 1 =>
    obtain ⟨first, others⟩ := List.forall_mem_cons.1 fit
    rw [Layout.moreItems] at fits
    simp only [List.length_cons, List.length_append] at fits enough
    have start := starts_chars layout indent item
    have item_read := follows.value_chars layout indent first (by omega)
      (endsBefore_itemsBehind layout indent items blank rest)
    have items_read := follows.moreItems_chars layout indent count others (by omega) (by omega)
      blank rest
    rw [itemsBehind_cons, moreItems_comma (layout.blank_gap _) _ (start _),
      items_ofChars (layout.blank_gap _) (start _) item_read items_read, List.map_cons]

theorem moreMembers_chars (follows : Follows fuel value key Fit make name) (layout : Layout)
    (indent count : Nat) {members : List (String × Json)} {depth : Nat}
    (fit : ∀ entry ∈ members, Fit depth entry.2)
    (fits : (layout.moreMembers indent members).length ≤ fuel) (enough : members.length < count)
    {front : List Char} (blank : ∀ c ∈ front, c = '\n' ∨ c = ' ') (rest : List UInt8) :
    moreMembers key (value depth) count (membersBehind layout indent members front rest) =
      .ok (members.map fun entry => (name entry.1, make entry.2), rest) := by
  match members, count with
  | [], count + 1 => exact moreMembers_close blank _ _
  | (text, v) :: members, count + 1 =>
    obtain ⟨first, others⟩ := List.forall_mem_cons.1 fit
    rw [Layout.moreMembers] at fits
    simp only [List.length_cons, List.length_append] at fits enough
    have value_read := follows.value_chars (v := v) layout indent first (by omega)
      (endsBefore_membersBehind layout indent members blank rest)
    have member_read := follows.member_quoted text layout.blank_space value_read
    have members_read := follows.moreMembers_chars layout indent count others (by omega)
      (by omega) blank rest
    rw [membersBehind_cons, moreMembers_comma (layout.blank_gap _),
      members_ofChars (layout.blank_gap _) member_read members_read, List.map_cons]

end

end Follows

end Reader

end Subscription
