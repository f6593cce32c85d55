import Subscription.Http.Credentials
import Subscription.Http.Host

/-!
# Who an address asks

The authority of an address is its host, with the port that the host listens on and the credentials
of whoever asks. `Authority.read?` takes one off the front of a text; which hosts there are is up to
the scheme of the address.
-/

namespace Subscription

/-- A host, and how it is asked. -/
structure Authority where
  credentials : Option Credentials
  host : String
  /-- The port, unless it is the one of the scheme. -/
  port : Option Nat
  deriving DecidableEq, Repr

namespace Authority

/-! ### Reading -/

/-- The characters in front of the last at sign and behind it, if there is one. -/
def atLastAt? (chars : List Char) : Option (List Char × List Char) :=
  match chars.reverse.dropWhile (· ≠ '@') with
  | [] => none
  | _ :: front => some (front.reverse, (chars.reverse.takeWhile (· ≠ '@')).reverse)

/-- The characters in front of the first colon, and those from it on. A colon between brackets does
not count. -/
def atColon (inBrackets : Bool) : List Char → List Char × List Char
  | [] => ([], [])
  | c :: rest =>
    if c = ':' && !inBrackets then ([], c :: rest)
    else
      let inBrackets := c = '[' || (inBrackets && c ≠ ']')
      let (host, port) := atColon inBrackets rest
      (c :: host, port)

/-- The port behind a colon and what follows it. Without digits the authority has no port. What
follows a port begins with a slash of either kind. -/
def port? (chars : List Char) : Option (Option Nat × List Char) := do
  let digits := chars.takeWhile Char.isDigit
  let rest := chars.dropWhile Char.isDigit
  guard (rest.head?.all fun c => c = '/' || c = '\\' || c = '?' || c = '#')
  if digits.isEmpty then return (none, rest)
  let port ← WebHost.digitsIn? 10 digits
  guard (port < 65536)
  return (some port, rest)

/-- The authority in front of a text, and what follows it. The slashes that end an authority and the
hosts are up to the scheme. An authority without a host has no port and no credentials, and nothing
follows an at sign that stands alone. -/
def read? (isSlash : Char → Bool) (host? : List Char → Option String) (chars : List Char) :
    Option (Authority × List Char) := do
  let belongs (c : Char) : Bool := !isSlash c && c ≠ '?' && c ≠ '#'
  let front := chars.takeWhile belongs
  let behind := chars.dropWhile belongs
  let (written, place) :=
    match atLastAt? front with
    | none => (none, front)
    | some (written, place) => (some written, place)
  guard !(written == some [] && place.isEmpty && !behind.isEmpty)
  let (name, rest) := atColon false place
  let credentials := written.bind Credentials.ofChars?
  let host ← host? name
  guard !(host.isEmpty && (credentials.isSome || !rest.isEmpty))
  let (port, rest) ← port? ((behind? [':'] rest).getD rest ++ behind)
  return ({ credentials, host, port }, rest)

/-! ### Writing -/

/-- The host, with its port if the authority has one. -/
def place (authority : Authority) : String :=
  authority.host ++ (authority.port.elim "" fun port => ":" ++ toString port)

/-- The authority as a text. -/
def text (authority : Authority) : String :=
  (authority.credentials.elim "" Credentials.text) ++ authority.place

/-- The authority without credentials that can be read. -/
def anonymous (authority : Authority) : Authority :=
  { authority with credentials := authority.credentials.filter (!·.isReadable) }

end Authority

end Subscription
