import Subscription.Json.Outline
import Subscription.Proofs.Json.Decimals
import Subscription.Proofs.Json.RoundTrip

/-!
# Outlines of written values

The text of a value is read as an outline whatever the value, since the outline does not mind what
numbers it holds or how deep it nests (`Outline.parse?_compact`). Every number is passed because it
is written as a numeral, every string is kept as it is written, and the loops over items and members
are those of the reader of values (`Outline.follows_value`).

In the outline of an object the members are found by their keys (`Outline.fields?_ofJson`), and a
member that may be missing or null says what the value there says
(`Outline.optional?_nullableText?_iff`).
-/

namespace Subscription

namespace Outline

open Numeral (IsDigits IsLeading IsFraction IsExponent IsMagnitude IsGrammatical)

variable {chars : List Char} {rest : List UInt8}

/-! ### Numbers are passed -/

theorem isDigit_of_mem_ofChars (h : ∀ c ∈ chars, c.isDigit = true) :
    ∀ byte ∈ Utf8.ofChars chars, Ascii.isDigit byte = true := by
  intro byte mem
  obtain ⟨c, inside, mem⟩ := List.mem_flatMap.1 mem
  obtain ⟨encoded, isDigit, -⟩ := Numeral.encode_digit (h c inside)
  rw [encoded, List.mem_singleton] at mem
  rwa [mem]

/-- Digits are passed up to the first byte that is none. -/
theorem passDigits_ofChars (h : IsDigits chars) (stop : Numeral.startsWithDigit rest = false) :
    passDigits (Utf8.ofChars chars ++ rest) = .ok rest := by
  have all := isDigit_of_mem_ofChars h.2
  have behind : rest.dropWhile Ascii.isDigit = rest := by
    cases rest with
    | nil => rfl
    | cons byte rest => exact List.dropWhile_cons_of_neg (ne_true_of_eq_false stop)
  have starts : Numeral.startsWithDigit (Utf8.ofChars chars ++ rest) = true := by
    obtain ⟨c, more, rfl⟩ := List.exists_cons_of_ne_nil h.1
    obtain ⟨encoded, isDigit, -⟩ := Numeral.encode_digit (h.2 c List.mem_cons_self)
    rw [Utf8.ofChars_cons, encoded]
    exact isDigit
  rw [passDigits, if_pos starts, List.dropWhile_append_of_pos all, behind]

/-- A written exponent is passed, if there is one. -/
theorem passExponent_ofChars (h : IsExponent chars) (stop : Numeral.endsBefore rest = true) :
    passExponent (Utf8.ofChars chars ++ rest) = .ok rest := by
  have noDigit := Numeral.startsWithDigit_of_endsBefore stop
  rcases h with rfl | ⟨sign, digits, isSign, isDigits, rfl⟩
  · cases rest with
    | nil => rfl
    | cons byte rest =>
      simp only [Numeral.endsBefore, Bool.not_eq_true', Bool.or_eq_false_iff] at stop
      simp [passExponent, stop.2]
  · have pass := passDigits_ofChars isDigits noDigit
    rcases isSign with rfl | rfl
    · exact pass
    · exact pass

/-- No digit and no point stands where a fraction ends. -/
theorem startsWithDigit_exponent (h : IsExponent chars) (stop : Numeral.endsBefore rest = true) :
    Numeral.startsWithDigit (Utf8.ofChars chars ++ rest) = false ∧
      ∀ more, Utf8.ofChars chars ++ rest ≠ Ascii.point :: more := by
  rcases h with rfl | ⟨sign, digits, -, -, rfl⟩
  · refine ⟨Numeral.startsWithDigit_of_endsBefore stop, ?_⟩
    rintro more same
    rw [Utf8.ofChars_nil, List.nil_append] at same
    rw [same] at stop
    cases stop
  · exact ⟨rfl, fun more same => absurd (List.cons.inj same).1 (by decide)⟩

/-- A written fraction is passed, and the exponent behind it. -/
theorem passFraction_ofChars {fraction exponent : List Char} (hf : IsFraction fraction)
    (he : IsExponent exponent) (stop : Numeral.endsBefore rest = true) :
    passFraction (Utf8.ofChars (fraction ++ exponent) ++ rest) = .ok rest := by
  have pass := passExponent_ofChars he stop
  obtain ⟨noDigit, noPoint⟩ := startsWithDigit_exponent he stop
  rcases hf with rfl | ⟨digits, isDigits, rfl⟩
  · rw [List.nil_append, passFraction.eq_2 _ noPoint]
    exact pass
  · have passed := passDigits_ofChars isDigits noDigit
    have point : Utf8.ofChars ('.' :: digits ++ exponent) ++ rest =
        Ascii.point :: (Utf8.ofChars digits ++ (Utf8.ofChars exponent ++ rest)) := by
      rw [List.cons_append, Utf8.ofChars_cons, Utf8.ofChars_append, List.append_assoc,
        List.append_assoc]
      rfl
    have step (bytes : List UInt8) :
        passFraction (Ascii.point :: bytes) = (passDigits bytes).bind passExponent := rfl
    rw [point, step, passed]
    exact pass

/-- No digit stands behind the digits in front of the point. -/
theorem startsWithDigit_fraction {fraction exponent : List Char} (hf : IsFraction fraction)
    (he : IsExponent exponent) (stop : Numeral.endsBefore rest = true) :
    Numeral.startsWithDigit (Utf8.ofChars (fraction ++ exponent) ++ rest) = false := by
  rcases hf with rfl | ⟨digits, -, rfl⟩
  · exact (startsWithDigit_exponent he stop).1
  · rfl

theorem ne_minus_of_isDigit {byte : UInt8} (h : Ascii.isDigit byte = true) :
    byte ≠ Ascii.minus := by
  rintro rfl
  cases h

/-- A number that begins with a digit other than zero. -/
theorem passNumber_digits {byte : UInt8} (notMinus : byte ≠ Ascii.minus)
    (notZero : byte ≠ Ascii.zero) (bytes : List UInt8) :
    passNumber (byte :: bytes) = (passDigits (byte :: bytes)).bind passFraction := by
  unfold passNumber
  split
  · next same => exact absurd (List.cons.inj same).1 notMinus
  · dsimp only
    split
    · next same => exact absurd (List.cons.inj same).1 notZero
    · rfl

/-- The sign of a number is passed over. -/
theorem passNumber_minus {byte : UInt8} (notMinus : byte ≠ Ascii.minus) (bytes : List UInt8) :
    passNumber (Ascii.minus :: byte :: bytes) = passNumber (byte :: bytes) := by
  conv => rhs; unfold passNumber
  split
  · next same => exact absurd (List.cons.inj same).1 notMinus
  · rfl

/-- A written number without a sign is passed. -/
theorem passNumber_magnitude (h : IsMagnitude chars) (stop : Numeral.endsBefore rest = true) :
    passNumber (Utf8.ofChars chars ++ rest) = .ok rest := by
  obtain ⟨leading, fraction, exponent, hl, hf, he, rfl⟩ := h
  have pass := passFraction_ofChars hf he stop
  have noDigit := startsWithDigit_fraction hf he stop
  rw [List.append_assoc leading, Utf8.ofChars_append, List.append_assoc]
  rcases hl with rfl | ⟨digits, noZero⟩
  · have step (bytes : List UInt8) : passNumber (Utf8.ofChars ['0'] ++ bytes) =
        if Numeral.startsWithDigit bytes then Stop.on .invalidNumber bytes
        else passFraction bytes := rfl
    rw [step, noDigit]
    exact pass
  · have passed := passDigits_ofChars digits noDigit
    obtain ⟨c, more, rfl⟩ := List.exists_cons_of_ne_nil digits.1
    have first := digits.2 c List.mem_cons_self
    obtain ⟨encoded, isDigit, -⟩ := Numeral.encode_digit first
    have notZero := Numeral.encode_digit_ne_zero first fun same => noZero (congrArg some same)
    rw [Utf8.ofChars_cons, encoded, List.singleton_append] at passed ⊢
    rw [List.cons_append] at passed ⊢
    rw [passNumber_digits (ne_minus_of_isDigit isDigit) notZero, passed]
    exact pass

/-- A written number is passed, and nothing behind it. -/
theorem passNumber_ofChars (h : IsGrammatical chars) (stop : Numeral.endsBefore rest = true) :
    passNumber (Utf8.ofChars chars ++ rest) = .ok rest := by
  obtain ⟨sign, magnitude, rfl | rfl, isMagnitude, rfl⟩ := h
  · exact passNumber_magnitude isMagnitude stop
  · have passed := passNumber_magnitude isMagnitude stop
    obtain ⟨byte, more, written, isDigit⟩ := isMagnitude.ofChars_eq_cons
    rw [written, List.cons_append] at passed
    rw [Utf8.ofChars_append, written]
    exact (passNumber_minus (ne_minus_of_isDigit isDigit) _).trans passed

/-! ### Strings are kept -/

/-- The bytes between the quotes of a written string. -/
def rawBytes (text : String) : List UInt8 := Utf8.ofChars (text.toList.flatMap Json.escape)

section Strings

open Reader (isLiteral shortEscape? unit?)

variable {bytes raw : List UInt8}

/-- Bytes that stand for themselves are kept as they are. -/
theorem rawString_literals {literals : List UInt8} (all : ∀ byte ∈ literals, isLiteral byte = true)
    (h : rawString bytes = .ok (raw, rest)) :
    rawString (literals ++ bytes) = .ok (literals ++ raw, rest) := by
  induction literals with
  | nil => exact h
  | cons byte literals ih =>
    obtain ⟨first, others⟩ := List.forall_mem_cons.1 all
    simp only [isLiteral, Bool.and_eq_true, bne_iff_ne, Bool.not_eq_true', decide_eq_false_iff_not]
      at first
    obtain ⟨⟨quote, backslash⟩, control⟩ := first
    -- The byte neither ends the string nor begins an escape.
    refine (rawString.eq_7 byte (literals ++ bytes) quote (fun same _ => backslash same)
      (fun _ _ _ _ _ same _ => backslash same) (fun _ same _ => backslash same)
      (fun _ _ same _ => backslash same)).trans ?_
    rw [if_neg control, ih others]
    rfl

/-- A written character is kept as it is written. -/
theorem rawString_escape {c : Char} (h : rawString bytes = .ok (raw, rest)) :
    rawString (Utf8.ofChars (Json.escape c) ++ bytes) =
      .ok (Utf8.ofChars (Json.escape c) ++ raw, rest) := by
  rcases Reader.ofChars_escape_cases c with ⟨written, literal⟩ |
      ⟨letter, meant, written, other, short, -⟩ | ⟨high, low, written, read, -⟩
  · rw [written]
    exact rawString_literals literal h
  · rw [written]
    refine (rawString.eq_6 letter bytes (fun _ _ _ _ _ same _ => other same) other).trans ?_
    rw [short, h]
    rfl
  · rw [written]
    refine (rawString.eq_4 Ascii.zero Ascii.zero high low bytes).trans ?_
    rw [read, h]
    rfl

/-- A written string is kept up to the quote that ends it, escapes included. -/
theorem rawString_quoted (text : String) (rest : List UInt8) :
    rawString (rawBytes text ++ Ascii.quote :: rest) = .ok (rawBytes text, rest) := by
  rw [rawBytes]
  induction text.toList with
  | nil => rfl
  | cons c chars ih =>
    rw [List.flatMap_cons, Utf8.ofChars_append, List.append_assoc, rawString_escape ih]

/-- The bytes of a written string stand for its text. -/
theorem rawText?_rawBytes (text : String) : rawText? (rawBytes text) = some text := by
  rw [rawText?, rawBytes, Reader.string_quoted]

end Strings

/-! ### Values are outlined -/

mutual

/-- The outline of a value. -/
def ofJson : Json → Outline
  | .null => .null
  | .bool _ | .number _ => .plain
  | .string text => .string (rawBytes text)
  | .array items => .array (ofItems items)
  | .object members => .object (ofMembers members)

/-- The outlines of items. -/
def ofItems : List Json → List Outline
  | [] => []
  | item :: rest => ofJson item :: ofItems rest

/-- The outlines of members. -/
def ofMembers : List (String × Json) → List (List UInt8 × Outline)
  | [] => []
  | (key, value) :: rest => (rawBytes key, ofJson value) :: ofMembers rest

end

theorem ofItems_eq_map (items : List Json) : ofItems items = items.map ofJson := by
  induction items with
  | nil => rfl
  | cons item rest ih => rw [ofItems, ih, List.map_cons]

theorem ofMembers_eq_map (members : List (String × Json)) :
    ofMembers members = members.map fun entry => (rawBytes entry.1, ofJson entry.2) := by
  induction members with
  | nil => rfl
  | cons entry rest ih => rw [ofMembers, ih, List.map_cons]

section Values

variable {fuel depth : Nat} {bytes : List UInt8}

/-- Blanks in front of a value are passed over. -/
theorem value_ofChars {front : List Char} (h : ∀ c ∈ front, c = '\n' ∨ c = ' ') :
    value fuel depth (Utf8.ofChars front ++ bytes) = value fuel depth bytes := by
  rw [value.eq_def, value.eq_def fuel depth bytes]
  simp only [Reader.skipBlanks_ofChars h]

/-- A number is passed, its value is not kept. -/
theorem value_number (number : Number) (stop : Numeral.endsBefore rest = true) :
    value fuel depth (Utf8.encode number.text ++ rest) = .ok (.plain, rest) := by
  have passed := passNumber_ofChars number.isGrammatical_text stop
  obtain ⟨byte, more, written, starts⟩ := number.encode_text_eq_cons
  obtain ⟨start, notN, notT, notF⟩ := Reader.startsValue_of_number starts
  rw [← Utf8.encode_eq, written, List.cons_append] at passed
  rw [written, List.cons_append, value.eq_def]
  simp only [Reader.skipBlanks_cons start, notN, notT, notF, if_false, starts, if_true, passed]
  rfl

/-- A string is kept as it is written. -/
theorem value_string (text : String) :
    value fuel depth (Utf8.ofChars (Json.quoted text) ++ rest) =
      .ok (.string (rawBytes text), rest) := by
  have read := rawString_quoted text rest
  rw [rawBytes] at read
  rw [Reader.ofChars_quoted, value.eq_def]
  change (rawString _).bind _ = _
  rw [read]
  rfl

/-- The reader makes of a written value its outline, and of a key its bytes. -/
theorem follows_value : Reader.Follows fuel (value fuel) rawString (fun depth v => v.depth ≤ depth)
    ofJson rawBytes where
  blanks blank _ := value_ofChars blank
  leaf {depth v} layout indent isLeaf fit rest stop := by
    match v with
    | .null => rw [value.eq_def]; rfl
    | .bool true => rw [value.eq_def]; rfl
    | .bool false => rw [value.eq_def]; rfl
    | .string text => exact value_string text
    | .number number => exact value_number number stop
  named := rawString_quoted
  array {depth items} fit := by
    rw [Json.depth] at fit
    cases depth with
    | zero => exact absurd fit (Nat.not_succ_le_zero _)
    | succ depth =>
      -- An item nests less deep than its array, by one at least.
      rw [Nat.add_le_add_iff_right, Json.depthOfItems_le_iff] at fit
      refine ⟨depth, fit, fun bytes rest read => ?_⟩
      have step : value fuel (depth + 1) (Ascii.openBracket :: bytes) =
          (Reader.items (value fuel depth) fuel bytes).bind fun read =>
            .ok (.array read.1, read.2) := by
        rw [value.eq_def]
        rfl
      rw [step, read, ofJson, ofItems_eq_map]
      rfl
  object {depth members} fit := by
    rw [Json.depth] at fit
    cases depth with
    | zero => exact absurd fit (Nat.not_succ_le_zero _)
    | succ depth =>
      rw [Nat.add_le_add_iff_right, Json.depthOfMembers_le_iff] at fit
      refine ⟨depth, fit, fun bytes rest read => ?_⟩
      have step : value fuel (depth + 1) (Ascii.openBrace :: bytes) =
          (Reader.members rawString (value fuel depth) fuel bytes).bind fun read =>
            .ok (.object read.1, read.2) := by
        rw [value.eq_def]
        rfl
      rw [step, read, ofJson, ofMembers_eq_map]
      rfl

end Values

/-- **A written value is read as its outline**, however deep it nests. -/
theorem parse?_compact (v : Json) : parse? v.compact = some (ofJson v) := by
  have bytes : Utf8.encode v.compact = Utf8.ofChars (Json.Layout.dense.chars 0 v) := by
    rw [Json.compact, Utf8.encode_ofList, Json.compactChars_eq_chars]
  have fits := Utf8.length_le_ofChars (Json.Layout.dense.chars 0 v)
  have shallow := Json.depth_le_length .dense 0 v
  rw [← bytes] at fits
  have read : value (Utf8.encode v.compact).length ((Utf8.encode v.compact).length + 1)
      (Utf8.ofChars (Json.Layout.dense.chars 0 v) ++ []) = .ok (ofJson v, []) :=
    follows_value.value_chars .dense 0 (by omega) fits rfl
  rw [List.append_nil, ← bytes] at read
  rw [parse?]
  simp only [read]
  rfl

/-! ### What is found in an outline -/

/-- The members of an object are found by their keys. -/
theorem fields?_ofJson {members : Keyed Json} (sorted : members.Sorted) (names : List String) :
    (ofJson (.object members)).fields? names =
      some (names.map fun name => (members.get? name).map ofJson) := by
  have keys : (ofMembers members).mapM (fun entry => (rawText? entry.1).map fun key =>
      (key, entry.2)) = some (members.mapValues ofJson) := by
    rw [ofMembers_eq_map, List.mapM_map]
    simp only [Function.comp_def, rawText?_rawBytes, Option.map_some]
    exact List.mapM_pure
  change ((ofMembers members).mapM (fun entry => (rawText? entry.1).map fun key =>
      (key, entry.2))).bind _ = _
  rw [keys, Option.bind_some]
  refine (congrArg (fun find => names.mapM find) (funext fun name => ?_)).trans List.mapM_pure
  rw [(sorted.mapValues ofJson).filter_key, Keyed.get?_mapValues]
  cases members.get? name with
  | none => rfl
  | some v => rfl

end Outline

namespace Json

/-- What a member says that may be missing or null: nothing, or its text. -/
inductive IsNullableText : Option Json → Option String → Prop
  | missing : IsNullableText none none
  | null : IsNullableText (some .null) none
  | text (text : String) : IsNullableText (some (.string text)) (some text)

theorem isNullableText_some {member : Option Json} {text : String} :
    IsNullableText member (some text) ↔ member = some (.string text) := by
  constructor
  · rintro ⟨⟩
    rfl
  · rintro rfl
    exact .text text

end Json

/-- A text is read from an outline where the member is a text, or where it is `null` or missing. -/
theorem Outline.optional?_nullableText?_iff (member : Option Json) (text : Option String) :
    optional? nullableText? (member.map ofJson) = some text ↔ Json.IsNullableText member text := by
  constructor
  · intro h
    cases member with
    | none =>
      obtain rfl := Option.some.inj h
      exact .missing
    | some v =>
      cases v with
      | null =>
        obtain rfl := Option.some.inj h
        exact .null
      | string content =>
        change (rawText? (rawBytes content)).map some = some text at h
        rw [rawText?_rawBytes] at h
        obtain rfl := Option.some.inj h
        exact .text content
      | _ => cases h
  · rintro ⟨⟩
    · rfl
    · rfl
    · next content => exact congrArg (Option.map some) (rawText?_rawBytes content)

end Subscription
