import Subscription.Files.Tree
import Subscription.Text.Literal

/-!
# Paths as texts

A path is written as names between slashes. `PathText.join` continues a path by another one, and
`PathText.names` gives the names that lead to it from the root. A name that is empty, or is a point,
leads nowhere, but it is part of the path.
-/

namespace Subscription

namespace PathText

/-- A path continued by another one. One that begins at the root stands for itself. -/
def join (path rest : String) : String :=
  if rest.startsWith "/" || path.isEmpty then rest
  else if path.endsWith "/" then path ++ rest
  else path ++ "/" ++ rest

/-- The names of a path from the root on. Slashes at the end do not count. -/
def names (path : String) : Path :=
  let names := (splitAt '/' path.toList).map String.ofList
  (names.reverse.dropWhile (· = "")).reverse

end PathText

end Subscription
