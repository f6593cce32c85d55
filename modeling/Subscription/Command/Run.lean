import Subscription.Command.Line
import Subscription.Entitlement.Registry
import Subscription.Host.Machine
import Subscription.Http.Server
import Subscription.Store.File
import Subscription.Update

/-!
# Carrying out a command

`Command.run` carries out a command in any surroundings and gives what to report, or the failure.
Every failure has an exit code: one for a misuse, one for resources that cannot be listed, and one
for all others. `Program.run` is the whole program: it reads the command line and carries it out on
the files of a machine, over a network.
-/

namespace Subscription

/-! ### Failures and reports -/

/-- Why a command was not carried out. -/
inductive CommandError where
  | update (cause : UpdateError)
  | client (cause : ClientError)
  /-- The command needs an attached machine. -/
  | notAttached
  /-- The resources cannot be listed. -/
  | listing (cause : NetworkError)
  deriving Repr

namespace CommandError

/-- The exit code of a failure. -/
def code : CommandError → Nat
  | .update (.misuse _) | .notAttached => 2
  | .update (.failed _) | .client _ => 1
  | .listing _ => 3

/-- The failure in words. -/
def message : CommandError → String
  | .update cause => cause.message
  | .client cause => cause.notice.text
  | .notAttached => Misuse.notAttached.message
  | .listing cause => "failed to list resources: " ++ cause.text

end CommandError

/-- What a command reports. -/
inductive Report where
  /-- A sentence for the operator. -/
  | told (sentence : String)
  /-- A value to be printed. -/
  | shown (value : Json)
  deriving Repr

/-! ### Commands -/

namespace Command

variable {σ : Type}

/-- The token of an attached machine. -/
def attachedToken (env : Environment σ) : Action (World σ) CommandError MachineToken := do
  let token ← env.machineToken.failingAs fun cause => .client (.store cause)
  match token.filter MachineToken.isAttached with
  | some token => return token
  | none => throw .notAttached

/-- The types whose access records may be stored: the registered ones and those of a token. -/
def accessTypes (processors : Keyed Processor) (token : MachineToken) : List String :=
  let kinds := processors.keys ++ token.entitlements.filterMap Entitlement.kind
  Keyed.keys (Keyed.ofList (kinds.map fun kind => (kind, ())))

/-- Removes the access record of a type. A type that cannot be a key has none. -/
def clearAccess (env : Environment σ) (kind : String) : Action (World σ) StoreError Unit :=
  tryCatch (env.store.delete (Store.accessKey kind)).onState fun
    | .invalidKey _ => return ()
    | cause => throw cause

/-- Removes all that an attachment left behind, the token last. -/
def clear (env : Environment σ) (token : MachineToken) : Action (World σ) StoreError Unit := do
  (accessTypes env.processors token).forM (clearAccess env)
  (env.store.delete Store.machineIdKey).onState
  (env.store.delete Store.tokenKey).onState

/-- Attaches the machine. -/
def runAttach (env : Environment σ) (token : String) : Action (World σ) CommandError Report := do
  (Update.run env (some token)).failingAs .update
  return .told "This machine is now attached."

/-- Refreshes the machine. -/
def runRefresh (env : Environment σ) : Action (World σ) CommandError Report := do
  (Update.run env none).failingAs .update
  return .told "Successfully refreshed your subscription."

/-- Detaches the machine and removes what the attachment left behind. -/
def runDetach (env : Environment σ) : Action (World σ) CommandError Report := do
  let token ← attachedToken env
  let machineId ← env.machineId.failingAs fun cause => .client (.platform cause)
  let _ ← (Client.detach env token.secret token.contractId machineId).failingAs .client
  (clear env token).failingAs fun cause => .client (.store cause)
  Action.log (.detached token.contractId)
  return .told "This machine is now detached."

/-- Gets and shows the access record of a resource. -/
def runAccess (env : Environment σ) (resource : String) : Action (World σ) CommandError Report := do
  let token ← attachedToken env
  let value ← (Client.access env token.secret resource).failingAs .client
  return .shown value

/-- Shows all resources. -/
def runResources (env : Environment σ) : Action (World σ) CommandError Report := do
  let resources ← (Client.resources env).failingAs fun cause => .listing cause.network
  return .shown (.array resources)

/-- Carries out a command. -/
def run (env : Environment σ) : Command → Action (World σ) CommandError Report
  | .attach token => runAttach env token
  | .refresh => runRefresh env
  | .detach => runDetach env
  | .access resource => runAccess env resource
  | .resources => runResources env

end Command

/-! ### The program -/

/-- What a run of the program leaves behind. -/
structure Finish where
  code : Nat
  output : String := ""
  errors : String := ""
  deriving DecidableEq, Repr

namespace Program

/-- The name and the version of the program. -/
def version : String := "contract-sync 0.1.0"

/-- What is said to one who asks for help. -/
def help : String :=
  "Keep this machine's entitlements in sync with its contract\n\n" ++
  "Usage: contract-sync [OPTIONS] <COMMAND>"

/-- The machine under a configuration. -/
def machine (configuration : Configuration) (processor : String) (random : List UInt8) : Machine :=
  { root := configuration.root, dataDir := configuration.dataDir, processor, random }

/-- The surroundings of a machine under a configuration. All processors only record. -/
def environment (configuration : Configuration) (processor : String) (random : List UInt8)
    (network : Network) : Environment FileTree :=
  { store := Store.files (PathText.names configuration.storeDir)
    host := (machine configuration processor random).host
    server := HttpServer.answer configuration.contractUrl network
    processors :=
      Keyed.ofList (configuration.services.map fun kind => (kind, Processor.recording)) }

/-- What is left behind when no command is carried out. -/
def halted : Halt → Finish
  | .helpRequested => { code := 0, output := help ++ "\n" }
  | .versionRequested => { code := 0, output := version ++ "\n" }
  | _ => { code := 2, errors := help ++ "\n" }

/-- What is left behind when a command was carried out, or was not. -/
def finished : Except CommandError Report → Finish
  | .ok (.told sentence) => { code := 0, errors := sentence ++ "\n" }
  | .ok (.shown value) => { code := 0, output := value.pretty ++ "\n" }
  | .error cause => { code := cause.code, errors := cause.message ++ "\n" }

/-- Runs the program with the variables of the environment and its arguments, on a machine with
these files. -/
def run (processor : String) (random : List UInt8) (network : Network) (assigned : Keyed String)
    (args : List String) (world : World FileTree) : Finish × World FileTree :=
  match CommandLine.read assigned args with
  | .error halt => (halted halt, world)
  | .ok line =>
    let env := environment line.configuration processor random network
    let (result, world) := (line.command.run env).perform world
    (finished result, world)

end Program

end Subscription
