import Subscription.Json.Basic

/-!
# Requests to the contract server

A `Request` is one call of the server, relative to wherever it can be reached. It is answered by a
`Response`, whose body is a JSON value, or fails with a `NetworkError`: the server refused it with a
status code, or no answer came.
-/

namespace Subscription

/-- The method of a request. -/
inductive Method where
  | get
  | post
  | delete
  deriving DecidableEq, Repr

/-- The method as it is sent. -/
def Method.text : Method → String
  | .get => "GET"
  | .post => "POST"
  | .delete => "DELETE"

/-- The header fields of a request or an answer, by name. -/
abbrev Headers := Keyed String

/-- One call of the server. -/
structure Request where
  method : Method
  /-- The route, relative to the address of the server. -/
  path : String
  headers : Headers
  data : Option Json
  deriving Repr

/-- The answer to a request that succeeded. -/
structure Response where
  body : Json
  headers : Headers
  deriving Repr

/-- The failure of a request. -/
structure NetworkError where
  message : String
  /-- The status that the server answered with; none when no answer came. -/
  code : Option Nat
  url : String
  headers : Headers
  /-- The answer as it came, empty when none did. -/
  body : String
  deriving DecidableEq, Repr

namespace NetworkError

/-- No answer came. -/
def connection (url message : String) : NetworkError :=
  { message, code := none, url, headers := [], body := "" }

/-- The server answered with a status that is no success. -/
def status (url : String) (code : Nat) (headers : Headers) (body : String) : NetworkError :=
  { message := "HTTP error", code := some code, url, headers, body }

/-- The failure in words. -/
def text (failure : NetworkError) : String :=
  match failure.code with
  | some code =>
    failure.message ++ ": HTTP " ++ toString code ++ " from " ++ failure.url
  | none => failure.message ++ ": " ++ failure.url

end NetworkError

end Subscription
