import Subscription.Host.Platform
import Subscription.Text.Blank
import Subscription.Text.DecimalDigit
import Subscription.Text.Literal
import Subscription.Text.LowerCase

/-!
# The description of a release

A distribution describes its release in lines of the form `NAME=value`, the value with or without
quotes. Where two lines have one name, the first counts. The name of the release series is a member
of its own on newer releases and hidden in the version on older ones, as in `22.04.4 LTS (Jammy
Jellyfish)` or `14.04.5 LTS, Trusty Tahr`.
-/

namespace Subscription

/-- The members of a release description, in their order. -/
structure Release where
  assignments : List (String × String)
  deriving DecidableEq, Repr

namespace Release

/-! ### Lines -/

/-- The characters without the quotes at either end. -/
def withoutQuotes (chars : List Char) : List Char :=
  ((chars.dropWhile (· = '"')).reverse.dropWhile (· = '"')).reverse

/-- The name and the value in a line; comments and lines of another form have none. -/
def assignment? (line : List Char) : Option (String × String) :=
  let line := trimBlanks line
  if line.head? = some '#' then none
  else
    match splitAt '=' line with
    | name :: part :: parts =>
      let value := ['='].intercalate (part :: parts)
      some (String.ofList name, String.ofList (withoutQuotes value))
    | _ => none

/-- The release that a text describes. -/
def ofText (text : String) : Release :=
  { assignments := (splitAt '\n' text.toList).filterMap assignment? }

/-- The value of a member, empty if there is none. -/
def value (release : Release) (name : String) : String :=
  ((release.assignments.find? fun assignment => assignment.1 = name).map Prod.snd).getD ""

/-! ### The series -/

/-- Whether a character is a Latin letter. -/
def isLetter (c : Char) : Bool := c.isAlpha

/-- The letters in front, if there are any. -/
def letters? (chars : List Char) : Option (List Char) :=
  match chars.takeWhile isLetter with
  | [] => none
  | letters => some letters

/-- The characters behind `c`, if it stands in front, and else all of them. -/
def skip (c : Char) (chars : List Char) : List Char := (behind? [c] chars).getD chars

/-- The name behind a release number: an optional comma, a space and an optional parenthesis come
before it. -/
def nameAfter? (chars : List Char) : Option (List Char) := do
  let chars ← behind? [' '] (skip ',' chars)
  letters? (skip '(' chars)

/-- The characters behind the release number in front, which has two parts or more. -/
def behindNumber? (chars : List Char) : Option (List Char) :=
  let inNumber (c : Char) : Bool := isDecimalDigit c || c == '.'
  let parts := splitAt '.' (chars.takeWhile inNumber)
  if 2 ≤ parts.length && parts.all (!·.isEmpty) then some (chars.dropWhile inNumber) else none

/-- The name of the series in a version. The letters LTS behind the number are not a name, unless
nothing else is. -/
def seriesInVersion? (version : String) : Option String := do
  let chars ← behindNumber? version.toList
  let name ← ((behind? " LTS".toList chars).bind nameAfter?).or (nameAfter? chars)
  return lowerCase (String.ofList name)

/-- The members that name the series of a release. -/
def codenameFields : List String := ["VERSION_CODENAME", "UBUNTU_CODENAME"]

/-- The series of a release: the first member that names it, else the name in the version. -/
def series (release : Release) : Except PlatformError String :=
  match (codenameFields.map fun name => lowerCase (release.value name)).find? (· ≠ "") with
  | some series => .ok series
  | none =>
    let version := release.value "VERSION"
    if version = "" then .error (.missingField "VERSION_CODENAME")
    else
      match seriesInVersion? version with
      | some series => .ok series
      | none => .error (.invalidVersion version)

end Release

end Subscription
