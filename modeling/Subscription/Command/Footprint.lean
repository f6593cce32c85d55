import Subscription.Command.Run

/-!
# The files that a command touches

A command works on a few files of a machine, which are known before it runs: those that describe the
machine, and the entries of the store that it may read, write or remove.
-/

namespace Subscription

namespace Program

/-- The services whose access record a command may touch. All that an attached machine may have
stored are removed when it is detached. -/
def touchedServices (configuration : Configuration) (token : Option MachineToken) :
    Command → List String
  | .access resource => [resource]
  | .detach =>
    let registered := Keyed.ofList (configuration.services.map fun kind => (kind, ()))
    registered.keys ++ (token.elim [] fun token => token.entitlements.filterMap Entitlement.kind)
  | .attach _ | .refresh | .resources => []

/-- The path of the entry under a key. A key that is not valid has none. -/
def entryPath? (configuration : Configuration) (key : String) : Option String :=
  (FileStore.fileName? key).toOption.map (PathText.join configuration.storeDir)

/-- The path of the machine token. -/
def tokenPath (configuration : Configuration) : String :=
  PathText.join configuration.storeDir (FileStore.fileName Store.tokenKey)

/-- The machine token in the files read so far. -/
def tokenIn? (configuration : Configuration) (tree : FileTree) : Option MachineToken := do
  let bytes ← (tree.read (PathText.names (tokenPath configuration))).toOption
  let value ← (Json.read bytes).toOption
  (MachineToken.decode value).toOption

/-- The paths of the files that describe a machine. -/
def machinePaths (configuration : Configuration) : List String :=
  let machine := machine configuration "" []
  machine.idPaths ++ ["etc/os-release", "proc/sys/kernel/osrelease"].map machine.systemPath

/-- The paths of the files that a command may touch on a machine with this token. -/
def touchedPaths (line : CommandLine) (token : Option MachineToken) : List String :=
  let services := touchedServices line.configuration token line.command
  let keys := Store.machineIdKey :: services.map Store.accessKey
  machinePaths line.configuration ++ tokenPath line.configuration
    :: keys.filterMap (entryPath? line.configuration)

end Program

end Subscription
