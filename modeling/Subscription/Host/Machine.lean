import Subscription.Environment
import Subscription.Files.Path
import Subscription.Host.Release
import Subscription.Text.Utf8
import Subscription.Uuid

/-!
# A host that is known by its files

What a machine knows about itself stands in files: the description of its release, the number of its
kernel, and its machine id. A machine without an id gets a random one, which is kept in a directory
of this program's own and found there from then on.
-/

namespace Subscription

/-- Where the files of a host are, and what it is made of. -/
structure Machine where
  /-- The directory that stands for the root of the file system. -/
  root : String
  /-- The directory for what this program keeps. -/
  dataDir : String
  /-- The name of the processor architecture. -/
  processor : String
  /-- Random bytes, for an id that may have to be made up. -/
  random : List UInt8
  deriving Repr

namespace Machine

/-- The path of a file of the system. -/
def systemPath (machine : Machine) (path : String) : String := PathText.join machine.root path

/-- The text in a file. -/
def readText (tree : FileTree) (path : String) : Except PlatformError String :=
  match tree.read (PathText.names path) with
  | .error cause => .error (.file path cause)
  | .ok bytes => (Utf8.decode? bytes).elim (.error (.file path .notText)) .ok

/-- The name that distributions have for a processor architecture. -/
def packageArch (processor : String) : String :=
  match processor with
  | "x86_64" => "amd64"
  | "aarch64" => "arm64"
  | "x86" => "i386"
  | "powerpc64" => "ppc64el"
  | other => other

/-! ### The platform -/

/-- What the files say about the machine. -/
def platform (machine : Machine) (tree : FileTree) : Except PlatformError Platform := do
  let release := Release.ofText (← readText tree (machine.systemPath "etc/os-release"))
  let kernel := trimmed (← readText tree (machine.systemPath "proc/sys/kernel/osrelease"))
  let series ← release.series
  return {
    arch := packageArch machine.processor
    kernel
    series
    distribution := release.value "NAME"
    release := release.value "VERSION_ID" }

/-! ### The machine id -/

/-- The path of the id that was made up. -/
def ownIdPath (machine : Machine) : String := PathText.join machine.dataDir "machine-id"

/-- The files that may hold the id of the machine, in the order in which they count. -/
def idPaths (machine : Machine) : List String :=
  [machine.systemPath "etc/machine-id", machine.systemPath "var/lib/dbus/machine-id",
    machine.ownIdPath]

/-- The id in a file; a blank file has none, nor has one that cannot be read. -/
def idIn? (tree : FileTree) (path : String) : Option String :=
  ((readText tree path).toOption.map trimmed).filter (· ≠ "")

/-- The id that the files hold. -/
def knownId? (machine : Machine) (tree : FileTree) : Option String :=
  machine.idPaths.findSome? (idIn? tree)

/-- The id that the machine gets if it has none. -/
def madeUpId (machine : Machine) : String := (Uuid.ofRandom machine.random).text

/-- Writes the id that was made up to its file. -/
def keepId (machine : Machine) (tree : FileTree) : Except PlatformError String × FileTree :=
  match tree.makeDirectories (PathText.names machine.dataDir) with
  | (.error cause, tree) => (.error (.file machine.dataDir cause), tree)
  | (.ok (), tree) =>
    match tree.write (PathText.names machine.ownIdPath) (Utf8.encode machine.madeUpId) with
    | .error cause => (.error (.file machine.ownIdPath cause), tree)
    | .ok tree => (.ok machine.madeUpId, tree)

/-- The id of the machine, made up if the files do not hold one. -/
def machineId (machine : Machine) (tree : FileTree) :
    Except PlatformError String × FileTree × List LogEvent :=
  match machine.knownId? tree with
  | some id => (.ok id, tree, [])
  | none =>
    let (result, tree) := machine.keepId tree
    (result, tree, [.generatingMachineId machine.ownIdPath])

/-- The host whose files are a tree. -/
def host (machine : Machine) : Host FileTree where
  platform := machine.platform
  machineId := machine.machineId

end Machine

end Subscription
