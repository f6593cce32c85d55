import Subscription.Http.Server

/-!
# Messages on a connection

How a request is written to a connection, and what the bytes that come back until the connection is
closed mean. An answer has a line with its status, header fields one to a line, an empty line, and a
body, which is as long as the fields say, or comes in chunks with their lengths, or ends with the
connection.
-/

namespace Subscription

namespace HttpMessage

/-! ### Requests -/

/-- A line as it is sent. -/
def line (text : String) : List UInt8 := Utf8.encode text ++ [0x0D, 0x0A]

/-- The bytes of a request. The server is asked to close the connection behind its answer. -/
def ofRequest (request : SentRequest) : List UInt8 :=
  let body := request.body.getD []
  let length :=
    if request.body.isSome then [line ("content-length: " ++ toString body.length)] else []
  let fields := request.fields.map fun (name, value) => line (name.toLower ++ ": " ++ value)
  let start := line (request.method.text ++ " " ++ request.address.target ++ " HTTP/1.1")
  let host := line ("host: " ++ request.address.authority.place)
  (start :: host :: line "connection: close" :: fields ++ length).flatten ++ line "" ++ body

/-! ### The parts of an answer -/

/-- The bytes in front of the first line end and those behind it; a line end may be a line feed
alone. -/
def firstLine? : List UInt8 → Option (List UInt8 × List UInt8)
  | [] => none
  | 0x0A :: rest => some ([], rest)
  | 0x0D :: 0x0A :: rest => some ([], rest)
  | byte :: rest => (firstLine? rest).map fun (front, rest) => (byte :: front, rest)

/-- What is behind the first line is shorter. -/
theorem length_lt_of_firstLine? {bytes front rest : List UInt8}
    (h : firstLine? bytes = some (front, rest)) : rest.length < bytes.length := by
  fun_induction firstLine? bytes generalizing front with
  | case1 => simp at h
  | case2 more =>
    obtain ⟨-, rfl⟩ := Prod.mk.inj (Option.some.inj h)
    simp
  | case3 more =>
    obtain ⟨-, rfl⟩ := Prod.mk.inj (Option.some.inj h)
    simp only [List.length_cons]
    omega
  | case4 byte more _ _ ih =>
    obtain ⟨⟨tail, behind⟩, found, same⟩ := Option.map_eq_some_iff.1 h
    obtain ⟨rfl, rfl⟩ := Prod.mk.inj same
    have := ih found
    simp only [List.length_cons]
    omega

/-- The lines up to the first empty one, and the bytes behind it. -/
def head? (bytes : List UInt8) : Option (List (List UInt8) × List UInt8) :=
  match _ : firstLine? bytes with
  | none => none
  | some ([], rest) => some ([], rest)
  | some (front, rest) => (head? rest).map fun (lines, rest) => (front :: lines, rest)
termination_by bytes.length
decreasing_by exact length_lt_of_firstLine? ‹_›

/-- The bytes without the blanks at either end. -/
def trimmedBytes (bytes : List UInt8) : List UInt8 :=
  let isBlank (byte : UInt8) : Bool := byte = 0x20 || byte = 0x09
  ((bytes.dropWhile isBlank).reverse.dropWhile isBlank).reverse

/-- The name and the value in the line of a field. -/
def field? (bytes : List UInt8) : Option (String × List UInt8) := do
  let name ← Utf8.decode? (bytes.takeWhile (· ≠ Ascii.colon))
  guard (HttpField.isName name)
  match bytes.dropWhile (· ≠ Ascii.colon) with
  | _ :: value => return (name.toLower, trimmedBytes value)
  | [] => none

/-- The status in the first line of an answer. -/
def status? (bytes : List UInt8) : Option Nat := do
  let text ← Utf8.decode? (bytes.take 12)
  let rest ← behind? "HTTP/1.".toList text.toList
  match rest with
  | [_, ' ', a, b, c] =>
    guard ([a, b, c].all Char.isDigit)
    WebHost.digitsIn? 10 [a, b, c]
  | _ => none

/-! ### Bodies -/

/-- The length in the first line of a chunk. -/
def chunkLength? (bytes : List UInt8) : Option Nat := do
  let digits := bytes.takeWhile fun byte => (Ascii.hexDigit? byte).isSome
  guard (!digits.isEmpty)
  return digits.foldl (fun length byte => length * 16 + (Ascii.hexDigit? byte).getD 0) 0

/-- The bytes in chunks, which end with an empty one. -/
def ofChunks? (bytes : List UInt8) : Option (List UInt8) :=
  match _ : firstLine? bytes with
  | none => none
  | some (front, rest) =>
    match chunkLength? front with
    | none => none
    | some 0 => some []
    | some length =>
      if rest.length < length then none
      else
        match _ : firstLine? (rest.drop length) with
        | some ([], more) => (ofChunks? more).map (rest.take length ++ ·)
        | _ => none
termination_by bytes.length
decreasing_by
  have shorter : rest.length < bytes.length := length_lt_of_firstLine? ‹_›
  have shorter' : more.length < (rest.drop length).length := length_lt_of_firstLine? ‹_›
  simp only [List.length_drop] at shorter'
  omega

/-- The body that the bytes behind the header fields hold, if they hold all of it. -/
def body? (status : Nat) (headers : Headers) (bytes : List UInt8) : Option (List UInt8) :=
  if status = 204 || status = 304 then some []
  else if headers.get? "transfer-encoding" = some "chunked" then ofChunks? bytes
  else
    match headers.get? "content-length" with
    | none => some bytes
    | some text => do
      let length ← text.toNat?
      guard (length ≤ bytes.length)
      return bytes.take length

/-! ### Answers -/

/-- What the bytes mean that came until the connection was closed. -/
def toReply (bytes : List UInt8) : Reply :=
  match head? bytes with
  | some (first :: lines, rest) =>
    match status? first, lines.mapM field? with
    | some status, some fields =>
      match body? status (HttpField.received fields) rest with
      | some body => .answered status fields body
      | none => .truncated
    | _, _ => .dropped
  | _ => .dropped

end HttpMessage

end Subscription
