import Subscription.Environment

/-!
# The processors of a machine

Which services a machine can apply is given by the processors registered for their types. The
recording processor is the plainest: it logs what it is told and never fails.
-/

namespace Subscription

namespace Processor

/-- Logs the changes and succeeds. -/
def recording : Processor := fun _ call =>
  ([.received (call.kind?.getD "unknown") call.allowEnable call.delta], .ok ())

end Processor

namespace Registry

/-- The registered types in a row, as they are shown to a developer. -/
def listing (processors : Keyed Processor) : String :=
  "[" ++ ", ".intercalate (processors.keys.map quote) ++ "]"

end Registry

/-- What a developer is shown of the surroundings: the registered types. -/
def Environment.summary {σ : Type} (env : Environment σ) : String :=
  "Context \x7b processors: " ++ Registry.listing env.processors ++ ", .. \x7d"

end Subscription
