import Subscription.Http.Percent
import Subscription.Text.Base64
import Subscription.Text.Literal
import Subscription.Text.Utf8

/-!
# Credentials in an address

A name, and maybe a password, can stand in front of the host of an address. Both are kept with the
characters that do not stand for themselves written out. Credentials that can be read are no part of
the address that a request goes to: they go with it in a header field.
-/

namespace Subscription

/-- A name and a password, one of which is not empty. -/
structure Credentials where
  name : String
  password : Option String
  deriving DecidableEq, Repr

namespace Credentials

/-- The credentials that stand in front of the last at sign. An empty password is none, and without
a name and a password there are no credentials. -/
def ofChars? (chars : List Char) : Option Credentials :=
  let name := chars.takeWhile (· ≠ ':')
  let password := (behind? [':'] (chars.dropWhile (· ≠ ':'))).filter (!·.isEmpty)
  if name.isEmpty && password.isNone then none
  else some {
    name := Percent.encode Percent.credentialSpecial name
    password := password.map (Percent.encode Percent.credentialSpecial) }

/-- What is meant by a name or a password, if its bytes are UTF-8. -/
def meant? (written : String) : Option String :=
  Utf8.decode? (Percent.decode (Utf8.encode written))

/-- The name and the password that are meant, if the credentials can be read: the name has to be a
text, and one that is empty needs a password that is one. -/
def read? (credentials : Credentials) : Option (String × Option String) := do
  let name ← meant? credentials.name
  let password := credentials.password.bind meant?
  guard (name ≠ "" || password.isSome)
  return (name, password)

/-- Whether the credentials can be read. -/
def isReadable (credentials : Credentials) : Bool := credentials.read?.isSome

/-- The credentials as the value of a header field, if they can be read. -/
def authorization? (credentials : Credentials) : Option String :=
  credentials.read?.map fun (name, password) =>
    let written := Base64.encode (Utf8.encode (name ++ ":" ++ password.getD ""))
    "Basic " ++ String.ofList written

/-- The credentials as they stand in front of the host. -/
def text (credentials : Credentials) : String :=
  credentials.name ++ (credentials.password.elim "" fun password => ":" ++ password) ++ "@"

end Credentials

end Subscription
