import Subscription.Http.AddressPath
import Subscription.Http.Authority

/-!
# Web addresses

A `WebAddress` is where a request goes. Texts that mean the same address are brought into one form,
as browsers do it: the host is in its one form, a port that goes without saying is left out, the
points in a path are followed, and characters that may not stand for themselves are written as their
bytes in hexadecimal.
-/

namespace Subscription

/-- What stands behind the path of an address. -/
structure AddressSuffix where
  query : Option String
  fragment : Option String
  deriving DecidableEq, Repr

/-- Where a request goes. -/
structure WebAddress where
  scheme : String
  authority : Authority
  segments : List String
  suffix : AddressSuffix
  deriving DecidableEq, Repr

namespace AddressSuffix

/-- Whether a character ends a path. -/
def begins (c : Char) : Bool := c = '?' || c = '#'

/-- The query and the fragment; the special characters are those of the query. -/
def ofChars (special : List Char) (chars : List Char) : AddressSuffix :=
  let query := behind? ['?'] (chars.takeWhile (· ≠ '#'))
  let fragment := behind? ['#'] (chars.dropWhile (· ≠ '#'))
  { query := query.map (Percent.encode special)
    fragment := fragment.map (Percent.encode Percent.fragmentSpecial) }

/-- The query behind its question mark. -/
def queryText (suffix : AddressSuffix) : String :=
  suffix.query.elim "" fun query => "?" ++ query

/-- The query and the fragment behind their marks. -/
def text (suffix : AddressSuffix) : String :=
  suffix.queryText ++ (suffix.fragment.elim "" fun fragment => "#" ++ fragment)

end AddressSuffix

namespace WebAddress

/-! ### Reading -/

/-- Whether a character at either end of a text is not part of the address. -/
def isOuter (c : Char) : Bool := c.toNat ≤ 0x20

/-- The characters that count. -/
def significant (chars : List Char) : List Char :=
  let chars := (chars.dropWhile isOuter).reverse
  (chars.dropWhile isOuter).reverse.filter fun c => c ∉ ['\t', '\n', '\r']

/-- Whether a character may be part of the name of a scheme. -/
def isSchemeChar (c : Char) : Bool := c.isAlphanum || c ∈ ['+', '-', '.']

/-- The scheme in front of the first colon, and the characters behind it. -/
def scheme? (chars : List Char) : Option (String × List Char) := do
  let name := chars.takeWhile isSchemeChar
  guard (name.head?.any Char.isAlpha)
  let rest ← behind? [':'] (chars.dropWhile isSchemeChar)
  return (String.ofList (name.map Char.toLower), rest)

/-- The schemes of web servers, with their ports. -/
def webSchemes : List (String × Nat) := [("http", 80), ("https", 443)]

/-- The schemes of addresses that have the form of web addresses, with their ports. -/
def schemes : List (String × Nat) := webSchemes ++ [("ftp", 21), ("ws", 80), ("wss", 443)]

/-- The address that a text is, if it is one. -/
def parse? (text : String) : Option WebAddress := do
  let (scheme, rest) ← scheme? (significant text.toList)
  let usualPort ← schemes.lookup scheme
  let rest := rest.dropWhile AddressPath.isSlash
  let (authority, rest) ← Authority.read? AddressPath.isSlash WebHost.normal? rest
  let path := (rest.takeWhile (!AddressSuffix.begins ·)).map fun c =>
    if AddressPath.isSlash c then '/' else c
  return {
    scheme
    authority := { authority with port := authority.port.filter (· ≠ usualPort) }
    segments := AddressPath.segments ((behind? ['/'] path).getD path)
    suffix :=
      AddressSuffix.ofChars Percent.querySpecial (rest.dropWhile (!AddressSuffix.begins ·)) }

/-! ### Writing -/

/-- What a server is asked for: the path and the query. -/
def target (address : WebAddress) : String :=
  AddressPath.text address.segments ++ address.suffix.queryText

/-- The address as a text. -/
def text (address : WebAddress) : String :=
  address.scheme ++ "://" ++ address.authority.text ++ AddressPath.text address.segments
    ++ address.suffix.text

/-! ### What is asked of an address -/

/-- The address without credentials that can be read. It is where a request goes. -/
def anonymous (address : WebAddress) : WebAddress :=
  { address with authority := address.authority.anonymous }

/-- The length of the longest address, in bytes. -/
def longest : Nat := 65534

/-- Whether a web server can have the address. Not every name of a host can be sent, and no address
that is too long. -/
def isOnWeb (address : WebAddress) : Bool :=
  (webSchemes.lookup address.scheme).isSome
    && (address.authority.host.toList.all fun c => c ∉ ['"', '\x60', '{', '}'])
    && address.text.utf8ByteSize ≤ longest

/-- The port that a server listens on. -/
def listeningPort (address : WebAddress) : Nat :=
  address.authority.port.getD ((schemes.lookup address.scheme).getD 0)

end WebAddress

end Subscription
