/-!
# What the operator is told

When an attachment or a refresh does not succeed, the operator gets one message. A `Notice` is the
cause of it, `Notice.text` the wording.
-/

namespace Subscription

/-- Why an attachment or a refresh did not succeed, as far as the operator is concerned. -/
inductive Notice where
  | invalidToken
  | expiredToken
  /-- The contract ended on a day. -/
  | contractExpired (contractId date : String)
  /-- The contract begins on a day. -/
  | contractNotYetEffective (contractId date : String)
  | contractNeverEffective (contractId : String)
  /-- The contract server did not answer. -/
  | unreachable (url : String)
  /-- The contract server refused a request with a status. -/
  | refused (code : Nat) (detail : Option String)
  /-- Some services were not brought in line, for reasons that the operator can mend. -/
  | servicesFailed
  /-- Some services were not brought in line, for other reasons. -/
  | servicesBroken
  /-- Any other failure, in its own words. -/
  | failure (text : String)
  deriving DecidableEq, Repr

namespace Notice

/-- The attachment is not allowed. -/
def forbidden (reason : String) : String := "Cannot attach machine. " ++ reason

/-- A contract as it is named. -/
def contract (contractId : String) : String := "Contract \"" ++ contractId ++ "\""

/-- The message. -/
def text : Notice → String
  | .invalidToken => "Invalid token. Obtain a valid token from your subscription dashboard."
  | .expiredToken =>
    "Expired token or contract. Obtain a new token from your subscription dashboard."
  | .contractExpired contractId date => forbidden (contract contractId ++ " expired on " ++ date)
  | .contractNotYetEffective contractId date =>
    forbidden (contract contractId ++ " is not effective until " ++ date)
  | .contractNeverEffective contractId =>
    forbidden (contract contractId ++ " has never been effective")
  | .unreachable url => "Failed to connect to the contract server: " ++ url
  | .refused code detail =>
    "Contract server returned HTTP " ++ toString code
      ++ (detail.elim "" fun detail => ": " ++ detail)
  | .servicesFailed =>
    "Failed to enable or refresh one or more services. Check the log for details."
  | .servicesBroken =>
    "Unexpected error(s) occurred.\nFor more details, rerun with RUST_LOG=debug and check the log."
  | .failure text => text

end Notice

end Subscription
