import Subscription.Json.Reader

/-!
# The outline of a JSON text

An `Outline` keeps what a text looks like without understanding all of it: numbers are checked for
their form and forgotten, strings keep the bytes between their quotes, and objects keep their
members in the order of the text, also several with one key. Arrays and objects may nest to any
depth. A record whose unknown members do not matter is read from an outline, so a member that no one
looks at cannot make it unreadable.
-/

namespace Subscription

/-- What a JSON text looks like. -/
inductive Outline where
  | null
  /-- A boolean or a number. -/
  | plain
  /-- A string, by the bytes between its quotes. -/
  | string (raw : List UInt8)
  | array (items : List Outline)
  | object (members : List (List UInt8 × Outline))
  deriving Inhabited, Repr

namespace Outline

/-! ### Reading -/

/-- The bytes of a string up to its closing quote. Escapes have to look right, but stay as they
are. -/
def rawString : Reading (List UInt8)
  | [] => Stop.before .endInString []
  | Ascii.quote :: rest => .ok ([], rest)
  | Ascii.backslash :: [] => Stop.before .endInString []
  | Ascii.backslash :: Ascii.letterU :: a :: b :: c :: d :: rest =>
    if (Reader.unit? a b c d).isSome then do
      let (raw, rest) ← rawString rest
      .ok (Ascii.backslash :: Ascii.letterU :: a :: b :: c :: d :: raw, rest)
    else Stop.before .invalidEscape rest
  | Ascii.backslash :: Ascii.letterU :: _ => Stop.before .endInString []
  | Ascii.backslash :: byte :: rest =>
    if (Reader.shortEscape? byte).isSome then do
      let (raw, rest) ← rawString rest
      .ok (Ascii.backslash :: byte :: raw, rest)
    else Stop.before .invalidEscape rest
  | byte :: rest =>
    if byte < 0x20 then Stop.before .controlCharacter rest
    else do
      let (raw, rest) ← rawString rest
      .ok (byte :: raw, rest)

/-- One digit or more. -/
def passDigits (bytes : List UInt8) : Except Stop (List UInt8) :=
  if Numeral.startsWithDigit bytes then .ok (bytes.dropWhile Ascii.isDigit)
  else Stop.on .invalidNumber bytes

/-- An exponent, if one comes next. -/
def passExponent (bytes : List UInt8) : Except Stop (List UInt8) :=
  match bytes with
  | [] => .ok []
  | byte :: rest =>
    if Numeral.isExponentMark byte then
      match rest with
      | Ascii.plus :: rest | Ascii.minus :: rest => passDigits rest
      | rest => passDigits rest
    else .ok bytes

/-- A fraction and an exponent, if they come next. -/
def passFraction (bytes : List UInt8) : Except Stop (List UInt8) := do
  match bytes with
  | Ascii.point :: rest => passExponent (← passDigits rest)
  | bytes => passExponent bytes

/-- A number, whatever its value. -/
def passNumber (bytes : List UInt8) : Except Stop (List UInt8) :=
  let bytes :=
    match bytes with
    | Ascii.minus :: rest => rest
    | bytes => bytes
  match bytes with
  | Ascii.zero :: rest =>
    if Numeral.startsWithDigit rest then Stop.on .invalidNumber rest else passFraction rest
  | bytes => do passFraction (← passDigits bytes)

/-- The outline of a value in which arrays and objects nest at most `depth` deep. The fuel bounds
the length of each array and object. -/
def value (fuel : Nat) : (depth : Nat) → Reading Outline
  | depth, bytes =>
    match Reader.skipBlanks bytes with
    | [] => Stop.on .endInValue []
    | byte :: rest =>
      if byte = Ascii.letterN then do
        .ok (.null, ← Reader.word [0x75, 0x6C, 0x6C] rest)
      else if byte = Ascii.letterT then do
        .ok (.plain, ← Reader.word [0x72, 0x75, 0x65] rest)
      else if byte = Ascii.letterF then do
        .ok (.plain, ← Reader.word [0x61, 0x6C, 0x73, 0x65] rest)
      else if byte = Ascii.minus || Ascii.isDigit byte then do
        .ok (.plain, ← passNumber (byte :: rest))
      else if byte = Ascii.quote then do
        let (raw, rest) ← rawString rest
        .ok (.string raw, rest)
      else
        match depth with
        | 0 => Stop.before .tooDeep rest
        | depth + 1 =>
          if byte = Ascii.openBracket then do
            let (items, rest) ← Reader.items (value fuel depth) fuel rest
            .ok (.array items, rest)
          else if byte = Ascii.openBrace then do
            let (members, rest) ← Reader.members rawString (value fuel depth) fuel rest
            .ok (.object members, rest)
          else Stop.before .valueExpected rest

/-- The outline of a text, if it looks like JSON. A text cannot nest deeper than it is long. -/
def parse? (text : String) : Option Outline :=
  let bytes := Utf8.encode text
  match value bytes.length (bytes.length + 1) bytes with
  | .ok (outline, rest) =>
    match Reader.finish rest with
    | .ok () => some outline
    | .error _ => none
  | .error _ => none

/-! ### Looking closer -/

/-- The text that the bytes between quotes stand for, if they stand for one. -/
def rawText? (raw : List UInt8) : Option String :=
  match Reader.string (raw ++ [Ascii.quote]) with
  | .ok (text, []) => some text
  | _ => none

/-- Null as no text, a string as its text; nothing for any other value. -/
def nullableText? : Outline → Option (Option String)
  | .null => some none
  | .string raw => (rawText? raw).map some
  | _ => none

/-- The outlines of the named members of a record. An object names its members, each of the given
names at most once; an array lists them in the order of the names, and may leave out the last
ones. -/
def fields? (names : List String) : Outline → Option (List (Option Outline))
  | .object members => do
    let members ← members.mapM fun (raw, outline) => (rawText? raw).map fun key => (key, outline)
    names.mapM fun name =>
      match members.filter fun member => member.1 = name with
      | [] => some none
      | [(_, outline)] => some (some outline)
      | _ => none
  | .array items =>
    if items.length ≤ names.length then
      some (items.map some ++ List.replicate (names.length - items.length) none)
    else none
  | _ => none

/-- What `decode` makes of a member; an absent one is like null. -/
def optional? {α : Type} (decode : Outline → Option (Option α)) : Option Outline → Option (Option α)
  | none => some none
  | some outline => decode outline

end Outline

end Subscription
