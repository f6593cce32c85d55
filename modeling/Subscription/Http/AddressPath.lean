import Subscription.Http.Percent
import Subscription.Text.Literal

/-!
# The path of an address

A path is a list of segments. One point stands for the place itself and two points for the one
above, and both are followed when a path is read. A drive letter is a place that two points do not
leave.
-/

namespace Subscription

namespace AddressPath

/-- Whether a character ends a segment of a path. -/
def isSlash (c : Char) : Bool := c == '/' || c == '\\'

/-- Whether a segment is the letter of a drive, which a colon or a bar follows. -/
def isDrive (segment : List Char) : Bool :=
  match segment with
  | [letter, mark] => letter.isAlpha && (mark = ':' || mark = '|')
  | _ => false

/-- A segment in which a written-out point is a point again. -/
def plainPoints (segment : List Char) : List Char :=
  match segment with
  | '%' :: '2' :: c :: rest =>
    if c = 'e' || c = 'E' then '.' :: plainPoints rest else segment
  | c :: rest => c :: plainPoints rest
  | [] => []

/-- The segments above those in front, which are given in reverse. -/
def above (front : List String) : List String :=
  match front with
  | last :: rest => if isDrive last.toList then front else rest
  | [] => []

/-- A segment behind those in front. In the path of a file a drive letter that comes first is
written with a colon. -/
def written (ofFile : Bool) (front : List String) (segment : List Char) : String :=
  if ofFile && front.isEmpty && isDrive segment then String.ofList (segment.take 1 ++ [':'])
  else Percent.encode Percent.pathSpecial segment

/-- The segments of a path with its points followed; those so far are given in reverse. A point at
the end leaves the path ending in a slash. -/
def follow (ofFile : Bool) (front : List String) : List (List Char) → List String
  | [] => front.reverse
  | segment :: rest =>
    let points := plainPoints segment
    if points = ['.', '.'] then
      let front := above front
      follow ofFile (if rest.isEmpty then "" :: front else front) rest
    else if points = ['.'] then follow ofFile (if rest.isEmpty then "" :: front else front) rest
    else follow ofFile (written ofFile front segment :: front) rest

/-- The segments of a path behind its first slash. -/
def segments (path : List Char) : List String := follow false [] (splitAt '/' path)

/-- The segments of the path of a file behind its first slash. -/
def fileSegments (path : List Char) : List String := follow true [] (splitAt '/' path)

/-- The segments without the empty ones in front; the last one stays. -/
def withoutEmpty : List String → List String
  | "" :: segment :: rest => withoutEmpty (segment :: rest)
  | segments => segments

/-- A path as a text. -/
def text (segments : List String) : String := "/" ++ "/".intercalate segments

end AddressPath

end Subscription
