import Subscription.Action
import Subscription.Files.Error
import Subscription.Json.Fault
import Subscription.Json.Shape

/-!
# The store of named entries

What a machine has to remember between two runs are a few JSON values under keys: the machine token,
the machine id that the token was issued for, and the access records that were asked for. A `Store`
reads, writes and removes such entries in a state of its own. That an entry is absent is an answer,
not a failure.
-/

namespace Subscription

/-- Why an entry cannot be read, written or removed. -/
inductive StoreError where
  | file (cause : FileError)
  /-- The entry is no JSON text. -/
  | malformed (fault : Fault)
  /-- The entry is not the record it should be. -/
  | unexpected (mismatch : Mismatch)
  /-- The store has no place for such a key. -/
  | invalidKey (key : String)
  deriving Repr

namespace StoreError

/-- The failure in words. -/
def message : StoreError → String
  | .file cause => "cache io error: " ++ cause.message
  | .malformed fault => "cache json error: " ++ fault.message
  | .unexpected mismatch => "cache json error: " ++ mismatch.message
  | .invalidKey key => "invalid cache key: " ++ quote key

/-- The failures behind it, in words. -/
def sources : StoreError → List String
  | .file cause => [cause.message]
  | .malformed fault => [fault.message]
  | .unexpected mismatch => [mismatch.message]
  | .invalidKey _ => []

end StoreError

/-- A place for named entries, kept in a state. -/
structure Store (σ : Type) where
  /-- The entry under a key, if there is one. -/
  read : String → Action σ StoreError (Option Json)
  /-- Puts a value under a key. -/
  write : String → Json → Action σ StoreError Unit
  /-- Removes the entry under a key, if there is one. -/
  delete : String → Action σ StoreError Unit

namespace Store

/-- The key of the machine token. -/
def tokenKey : String := "machine-token"

/-- The key of the machine id that the token was issued for. -/
def machineIdKey : String := "machine-id"

/-- The key of the access record of a resource. -/
def accessKey (resource : String) : String := "machine-access-" ++ resource

end Store

end Subscription
