import Subscription.Files.Error

/-!
# The platform of a machine

What a machine says about itself when it is attached: its architecture and kernel, and the release
of the distribution it runs. Overrides are looked up by the name of the release series.
-/

namespace Subscription

/-- The facts about a machine. -/
structure Platform where
  arch : String
  kernel : String
  /-- The name of the release series. -/
  series : String
  distribution : String
  /-- The number of the release. -/
  release : String
  deriving DecidableEq, Repr

/-- Why the facts about a machine are not known. -/
inductive PlatformError where
  | file (path : String) (cause : FileError)
  /-- The description of the release lacks a member. -/
  | missingField (name : String)
  /-- The version does not name a series. -/
  | invalidVersion (version : String)
  deriving DecidableEq, Repr

namespace PlatformError

/-- The failure in words. -/
def message : PlatformError → String
  | .file path cause => "read " ++ path ++ ": " ++ cause.message
  | .missingField name => "os-release is missing " ++ name
  | .invalidVersion version => "Could not parse /etc/os-release VERSION: " ++ version

/-- The failures behind it, in words. -/
def sources : PlatformError → List String
  | .file _ cause => [cause.message]
  | .missingField _ | .invalidVersion _ => []

end PlatformError

end Subscription
