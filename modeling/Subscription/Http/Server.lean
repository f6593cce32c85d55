import Subscription.Environment
import Subscription.Http.Field
import Subscription.Http.ForeignAddress
import Subscription.Http.Status
import Subscription.Json.Reader
import Subscription.Redaction

/-!
# The contract server over a network

`HttpServer.answer` sends a request to a server somewhere on a network and takes its answer. What
the network does with a sent message is given by a `Network`: it brings back an answer, or part of
one, or nothing. Whether it has followed redirections on the way is not seen here. Both the request
and the answer are logged, with the secrets in them masked.
-/

namespace Subscription

/-- A request as it goes out. -/
structure SentRequest where
  method : Method
  address : WebAddress
  /-- The header fields in their order. -/
  fields : List (String × String)
  body : Option (List UInt8)
  deriving Repr

/-- What comes back for a sent request. -/
inductive Reply where
  | answered (status : Nat) (fields : List (String × List UInt8)) (body : List UInt8)
  /-- The answer broke off within its body. -/
  | truncated
  /-- Nothing came back. -/
  | dropped
  deriving Inhabited, Repr

/-- What a network does with a request after all that happened before. -/
abbrev Network := Journal → SentRequest → Reply

/-- Why a request cannot be sent. -/
inductive Unsendable where
  /-- Its address is none, or a header field is not legal. -/
  | malformed
  /-- Its address is not one of a web server. -/
  | foreign (address : String)
  deriving DecidableEq, Repr

/-- The reason in words. -/
def Unsendable.message : Unsendable → String
  | .malformed => "builder error"
  | .foreign address => "builder error for url (" ++ address ++ ")"

namespace HttpServer

/-- The address of a route, for a server at a base address. -/
def urlFor (base path : String) : String :=
  String.ofList (base.toList.reverse.dropWhile (· = '/')).reverse ++ path

/-- What is logged about a request. -/
def requestEvent (url : String) (request : Request) : LogEvent :=
  .request request.method url (redact (HttpField.listing request.headers))
    (request.data.elim "" fun data => redact data.compact)

/-- The value in a body: an empty one is the empty object, and one that is no JSON stands for its
text. -/
def bodyValue (text : String) : Json :=
  if (trimmed text).isEmpty then .object [] else (Json.parse? text).getD (.string text)

/-- The header fields that a request goes out with. It accepts anything and sends its data as JSON,
unless its own fields say otherwise. The credentials of its address come first, whatever else it is
authorized by. -/
def sentFields (credentials : Option Credentials) (request : Request) : List (String × String) :=
  let headers := HttpField.withUsual "accept" "*/*" request.headers
  let headers :=
    if request.data.isSome then HttpField.withUsual "content-type" "application/json" headers
    else headers
  match credentials.bind Credentials.authorization? with
  | some value => ("authorization", value) :: headers
  | none => headers

/-- The request as it goes out, or why it cannot: its header fields have to be legal and its address
one of a web server. An address without a host is looked at before the header fields, any other one
behind them. -/
def sent (url : String) (request : Request) : Except Unsendable SentRequest :=
  match WebAddress.parse? url, ForeignAddress.parse? url with
  | some given, _ =>
    let address := given.anonymous
    if !HttpField.areLegal request.headers then .error .malformed
    else if !address.isOnWeb then .error (.foreign address.text)
    else .ok {
      method := request.method
      address
      fields := sentFields given.authority.credentials request
      body := request.data.map fun data => Utf8.encode data.compact }
  | none, some address =>
    if address.hasHost && !HttpField.areLegal request.headers then .error .malformed
    else .error (.foreign address.anonymous.text)
  | none, none => .error .malformed

/-- What an answer that arrived in full means. -/
def interpret (url : String) (status : Nat) (headers : Headers) (text : String) :
    Except NetworkError Response :=
  if HttpStatus.isSuccess status then .ok { body := bodyValue text, headers }
  else
    let failure := NetworkError.status url status headers text
    .error { failure with message := (HttpStatus.phrase? status).getD failure.message }

/-- The server at a base address of a network. What the network comes back with is the answer: one
that redirects to another address is not followed from here, and is a failure like any other answer
without success. To follow it, as clients do up to ten times, would be up to the network. -/
def answer (base : String) (network : Network) : Server := fun journal request =>
  let url := urlFor base request.path
  let event := requestEvent url request
  match sent url request with
  | .error cause => ([event], .error (.connection url cause.message))
  | .ok sent =>
    match network journal sent with
    | .dropped =>
      let message := "error sending request for url (" ++ sent.address.text ++ ")"
      ([event], .error (.connection url message))
    | .truncated => ([event], .error (.connection url "error decoding response body"))
    | .answered status fields body =>
      let text := Utf8.decodeLossy body
      ([event, .response status url (redact text)],
        interpret url status (HttpField.received fields) text)

end HttpServer

end Subscription
