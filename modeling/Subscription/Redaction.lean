import Subscription.Text.Blank
import Subscription.Text.Literal

/-!
# Masking secrets

Before a text is logged, the secrets in it are masked. Two kinds of places hold secrets: what
follows the word `Bearer` in an authorization header, and the text of a JSON member that carries a
token. Each kind is a rule that looks at the characters ahead and says how many of them lead up to a
secret there and how many the secret has; `mask` applies a rule from left to right, never looking
into a secret again. `redact` masks the first kind, then the second.
-/

namespace Subscription

namespace Redaction

/-- A secret ahead: the characters that lead up to it and those it consists of. -/
structure Finding where
  lead : List Char
  secret : List Char
  deriving DecidableEq, Repr

/-- A rule that tells whether a secret lies directly ahead. -/
abbrev Rule := List Char → Option Finding

/-- What stands in place of a secret. -/
def masked : List Char := "<REDACTED>".toList

/-- Masks what the rule finds, after passing over the first `passed` characters. -/
def maskAfter (rule : Rule) (passed : Nat) : List Char → List Char
  | [] => []
  | c :: rest =>
    match passed with
    | passed + 1 => maskAfter rule passed rest
    | 0 =>
      match rule (c :: rest) with
      | none => c :: maskAfter rule 0 rest
      | some finding =>
        finding.lead ++ masked ++
          maskAfter rule (finding.lead.length + finding.secret.length - 1) rest

/-- Masks what the rule finds from left to right. -/
def mask (rule : Rule) (chars : List Char) : List Char := maskAfter rule 0 chars

/-- A secret of all characters of a class that come next, if there are any. -/
def secretOf (ofSecret : Char → Bool) (lead ahead : List Char) : Option Finding :=
  match ahead.takeWhile ofSecret with
  | [] => none
  | secret => some { lead, secret }

/-! ### Authorization headers -/

/-- The word that a bearer token follows. -/
def bearer : List Char := "Bearer".toList

/-- Whether a character can be part of a bearer token. -/
def isBearerChar (c : Char) : Bool := !(isBlank c || c == '\'' || c == '"' || c == ',')

/-- `Bearer`, at least one blank, and the token. -/
def bearerRule : Rule := fun chars => do
  let ahead ← behind? bearer chars
  match ahead.takeWhile isBlank with
  | [] => none
  | blanks => secretOf isBearerChar (bearer ++ blanks) (ahead.dropWhile isBlank)

/-! ### Token members -/

/-- The keys of the members that carry tokens. -/
def tokenKeys : List String := ["machineToken", "resourceToken", "contractToken", "token"]

/-- A quoted key, a colon and an opening quote, with blanks around the colon, and then the text. -/
def memberRule (key : String) : Rule := fun chars => do
  let name := '"' :: key.toList ++ ['"']
  let ahead ← behind? name chars
  let before := ahead.takeWhile isBlank
  match ahead.dropWhile isBlank with
  | ':' :: ahead =>
    let after := ahead.takeWhile isBlank
    match ahead.dropWhile isBlank with
    | '"' :: ahead => secretOf (· ≠ '"') (name ++ before ++ ':' :: after ++ ['"']) ahead
    | _ => none
  | _ => none

/-- The member of any token key. -/
def tokenRule : Rule := fun chars => tokenKeys.findSome? fun key => memberRule key chars

end Redaction

/-- Masks the secrets in characters. -/
def redactChars (chars : List Char) : List Char :=
  Redaction.mask Redaction.tokenRule (Redaction.mask Redaction.bearerRule chars)

/-- Masks the secrets in a text. -/
def redact (text : String) : String := String.ofList (redactChars text.toList)

end Subscription
