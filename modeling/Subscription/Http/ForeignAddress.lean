import Subscription.Http.Address

/-!
# Addresses that are not on the web

A text can be an address without being one that a web server is found at: `mailto:staff`, or
`localhost:8080`, whose scheme is `localhost`. Such an address has a one form too, in which it is
shown to whoever tried to send a request to it.
-/

namespace Subscription

/-- An address of some scheme that is none of the web. -/
structure ForeignAddress where
  scheme : String
  /-- What stands behind two slashes, if there are two slashes; its host may be empty. -/
  authority : Option Authority
  /-- The path as it is written. -/
  path : String
  suffix : AddressSuffix
  deriving DecidableEq, Repr

namespace ForeignAddress

open WebAddress

/-! ### Reading -/

/-- Whether a character may be part of a host. -/
def isHostChar (c : Char) : Bool := c ∉ "\x00\t\n\r #/:<>?@[\\]^|".toList

/-- The one form of a host, if the text is one. A number of 128 bits between brackets is a host
here too, and every other one stays as it is. -/
def host? (chars : List Char) : Option String :=
  if chars.head? = some '[' then WebHost.normal? chars
  else if chars.all isHostChar then some (Percent.encode [] chars)
  else none

/-- The address of a scheme that has no rules of its own. Behind an authority every path begins with
a slash. Without an authority and a slash in front the path is opaque: its points are no steps. -/
def ofAnyScheme? (scheme : String) (chars : List Char) : Option ForeignAddress := do
  let inPath (chars : List Char) : List Char := chars.takeWhile (!AddressSuffix.begins ·)
  let suffix (chars : List Char) : AddressSuffix :=
    .ofChars Percent.anyQuerySpecial (chars.dropWhile (!AddressSuffix.begins ·))
  let followed (path : List Char) : String := AddressPath.text (AddressPath.segments path)
  match chars with
  | '/' :: '/' :: rest =>
    let (authority, rest) ← Authority.read? (· == '/') host? rest
    let path :=
      match inPath rest with
      | [] => ""
      | '/' :: path | path => followed path
    return { scheme, authority := some authority, path, suffix := suffix rest }
  | '/' :: rest =>
    return { scheme, authority := none, path := followed (inPath rest), suffix := suffix rest }
  | rest =>
    let path := Percent.encode [] (inPath rest)
    return { scheme, authority := none, path, suffix := suffix rest }

/-- The host and the segments of a file behind two slashes. This machine needs no host, nor does a
file on a drive. -/
def fileAtHost? (chars : List Char) : Option (String × List String) :=
  let named := chars.takeWhile (· ≠ '/')
  let path := chars.dropWhile (· ≠ '/')
  if AddressPath.isDrive named then some ("", AddressPath.fileSegments chars)
  else if named.isEmpty then some ("", AddressPath.fileSegments path)
  else do
    let host ← WebHost.normal? named
    if host = "localhost" then return ("", AddressPath.fileSegments path)
    let segments := AddressPath.fileSegments (path.drop 1)
    let onDrive := segments.head?.any fun segment => AddressPath.isDrive segment.toList
    return (if onDrive then "" else host, segments)

/-- The host and the segments of a file. -/
def filePlace? (chars : List Char) : Option (String × List String) :=
  match chars with
  | '/' :: '/' :: rest => fileAtHost? rest
  | '/' :: rest => some ("", AddressPath.fileSegments rest)
  | rest => some ("", AddressPath.fileSegments rest)

/-- The address of a file. -/
def ofFile? (chars : List Char) : Option ForeignAddress := do
  let inPlace := chars.takeWhile (!AddressSuffix.begins ·)
  let (host, segments) ← filePlace? (inPlace.map fun c => if AddressPath.isSlash c then '/' else c)
  return {
    scheme := "file"
    authority := some { credentials := none, host, port := none }
    path := AddressPath.text (AddressPath.withoutEmpty segments)
    suffix :=
      AddressSuffix.ofChars Percent.querySpecial (chars.dropWhile (!AddressSuffix.begins ·)) }

/-- The address that a text is, if it is one and has not the form of a web address. -/
def parse? (text : String) : Option ForeignAddress := do
  let (scheme, rest) ← scheme? (significant text.toList)
  guard (schemes.lookup scheme).isNone
  if scheme = "file" then ofFile? rest else ofAnyScheme? scheme rest

/-! ### Writing -/

/-- Whether the address names a host. -/
def hasHost (address : ForeignAddress) : Bool := address.authority.any (·.host ≠ "")

/-- The address without credentials that can be read. -/
def anonymous (address : ForeignAddress) : ForeignAddress :=
  { address with authority := address.authority.map Authority.anonymous }

/-- The address as a text. A path that would look like a host is set off by a point. -/
def text (address : ForeignAddress) : String :=
  let place :=
    match address.authority with
    | some authority => "//" ++ authority.text
    | none => if address.path.startsWith "//" then "/." else ""
  address.scheme ++ ":" ++ place ++ address.path ++ address.suffix.text

end ForeignAddress

end Subscription
