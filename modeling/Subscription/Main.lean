import Std.Async.DNS
import Std.Async.TCP
import Std.Async.Timer
import Subscription.Command.Footprint
import Subscription.Http.Message

/-!
# The program

The program runs on the machine it is started on. It reads the files that its command may touch into
a tree, runs the command on the tree, and brings what has changed back to the machine. The command
itself knows nothing of this: a request that it sends is exchanged with the server, and the command
is run again with the answer, until it has all the answers it asks for.
-/

namespace Subscription

namespace Program

open Std Std.Async

/-! ### Files -/

/-- Whether a file that is there can be opened for this. -/
def opens (path : String) (mode : IO.FS.Mode) : IO Bool := do
  try
    let _ ← IO.FS.Handle.mk path mode
    return true
  catch _ => return false

/-- What stands at a path that cannot be read. What a file holds is not seen then, but it may be
written all the same. -/
def lookClosed (path : String) : IO Node := do
  try
    let _ ← IO.FS.Handle.mk path .append
    return .file { content := [], readable := false }
  catch
    | .inappropriateType .. => return .directory
    | _ => return .file { content := [], readable := false, writable := false }

/-- What stands at a path of the machine. -/
def look (path : String) : IO (Option Node) := do
  try
    let content := (← IO.FS.readBinFile path).toList
    return some (.file { content, writable := ← opens path .readWrite })
  catch
    | .noFileOrDirectory .. => return none
    | .inappropriateType _ code _ => return if code = 21 then some .directory else none
    | .permissionDenied .. => return some (← lookClosed path)
    | other => throw other

/-- The places that a path leads through, each with the path to it. -/
def placesOn (path : String) : List (Path × String) :=
  let names := PathText.names path
  (List.range names.length).map fun n =>
    let way := names.take (n + 1)
    (FileTree.placeOf way, "/".intercalate way)

/-- Adds to a tree what stands on the way to a path. -/
def load (tree : FileTree) (path : String) : IO FileTree :=
  (placesOn path).foldlM (fun tree (place, path) => do
    match tree.node? place, ← look path with
    | none, some node => return tree.put place node
    | _, _ => return tree) tree

/-- Writes a file beside its place, and then puts it there. -/
def save (dir name : String) (content : List UInt8) : IO Unit := do
  let temporary := PathText.join dir ("." ++ name ++ ".tmp")
  IO.FS.createDirAll dir
  IO.FS.writeBinFile temporary ⟨content.toArray⟩
  IO.FS.rename temporary (PathText.join dir name)

/-- Brings what has changed below a directory back to the machine. -/
def bring (dir : String) (before after : FileTree) : IO Unit := do
  let place := FileTree.placeOf (PathText.names dir)
  let pathOf (names : Path) : String := names.foldl PathText.join dir
  for (path, node) in before do
    if place.isPrefixOf path && node ≠ .directory && (after.node? path).isNone then
      IO.FS.removeFile (pathOf (path.drop place.length))
  for (path, node) in after.reverse do
    if place.isPrefixOf path && before.node? path ≠ some node then
      let names := path.drop place.length
      match node with
      | .directory => IO.FS.createDirAll (pathOf names)
      | .file file =>
        -- A file that cannot be read stays so: it is written where it is.
        if file.readable then save (pathOf names.dropLast) (names.getLast?.getD "") file.content
        else IO.FS.writeBinFile (pathOf names) ⟨file.content.toArray⟩

/-! ### The network -/

/-- All that a server sends until it closes the connection. -/
partial def receive (client : TCP.Socket.Client) (received : ByteArray) : Async ByteArray := do
  match ← client.recv? 65536 with
  | none => return received
  | some bytes => receive client (received ++ bytes)

/-- The address of a port. -/
def socketAddress (port : UInt16) : Net.IPAddr → Net.SocketAddress
  | .v4 address => .v4 ⟨address, port⟩
  | .v6 address => .v6 ⟨address, port⟩

/-- Sends a request to the first of some addresses that takes it. -/
def exchangeWith (sent : SentRequest) : List Net.SocketAddress → Async Reply
  | [] => return .dropped
  | address :: addresses => do
    try
      let client ← TCP.Socket.Client.mk
      client.connect address
      client.send ⟨(HttpMessage.ofRequest sent).toArray⟩
      return HttpMessage.toReply (← receive client ByteArray.empty).toList
    catch _ => exchangeWith sent addresses

/-- Sends a request and waits for the answer. Unlike most clients, which follow up to ten, it
follows no redirections, and it makes only connections that are not encrypted: nothing comes back
from an address of the scheme `https`. -/
def exchange (seconds : Nat) (sent : SentRequest) : IO Reply := do
  if sent.address.scheme ≠ "http" then return .dropped
  let port := sent.address.listeningPort
  let host := (sent.address.authority.host.dropWhile (· == '[')).dropEndWhile (· == ']')
  let answered : Async Reply := do
    let found ← DNS.getAddrInfo host.toString (toString port)
    exchangeWith sent (found.toList.map (socketAddress port.toUInt16))
  let late : Async Reply := do
    sleep (Time.Second.Offset.ofNat seconds).toMilliseconds
    return .dropped
  try
    (Async.race answered late).block
  catch _ => return .dropped

/-! ### Running -/

/-- Runs a command with the answers that came so far, and then with those that it asks for. -/
partial def settle (line : CommandLine) (run : Network → Finish × World FileTree)
    (replies : List Reply) : IO (Finish × World FileTree) := do
  let result := run fun journal _ => (replies[journal.requests.length]?).getD .dropped
  match result.2.journal.requests[replies.length]? with
  | none => return result
  | some request =>
    let url := HttpServer.urlFor line.configuration.contractUrl request.path
    let reply ← match HttpServer.sent url request with
      | .ok sent => exchange line.configuration.timeoutSecs sent
      | .error _ => pure .dropped
    settle line run (replies ++ [reply])

/-- Says on the error output what is worth knowing of what happened. -/
def tell (journal : Journal) : IO Unit :=
  journal.events.forM fun event =>
    match event.level with
    | .debug => return
    | .info => say "INFO" event
    | .warn => say "WARN" event
    | .error => say "ERROR" event
where
  /-- Says one event in a line. -/
  say (level : String) (event : LogEvent) : IO Unit :=
    IO.eprintln (level ++ " " ++ event.message ++ " " ++ (Json.object event.fields).compact)

/-- The variables of the environment that settings are read from. -/
def assignedHere : IO (Keyed String) := do
  let names := (Setting.token :: Setting.common).filterMap Setting.variableName?
  let found ← names.filterMapM fun name => do
    return (← IO.getEnv name).map fun value => (name, value)
  return Keyed.ofList found

/-- The name of the processor architecture. -/
def processor : IO String := do
  match ← look "/proc/sys/kernel/arch" with
  | some (.file file) => return ((Utf8.decode? file.content).map trimmed).getD "x86_64"
  | _ => return "x86_64"

/-- Reads the files that a command may touch. -/
def loadFor (line : CommandLine) : IO FileTree := do
  let tree ← load [] (tokenPath line.configuration)
  (touchedPaths line (tokenIn? line.configuration tree)).foldlM load tree

/-- Runs the program on this machine. -/
def runHere (args : List String) : IO Finish := do
  let assigned ← assignedHere
  match CommandLine.read assigned args with
  | .error halt => return halted halt
  | .ok line =>
    let processor ← processor
    let random := (← IO.getRandomBytes 16).toList
    let tree ← loadFor line
    let run (network : Network) : Finish × World FileTree :=
      Program.run processor random network assigned args { state := tree }
    let (finish, world) ← settle line run []
    bring line.configuration.dataDir tree world.state
    tell world.journal
    return finish

end Program

end Subscription

/-- Runs the program and ends with its exit code. -/
def main (args : List String) : IO UInt32 := do
  try
    let finish ← Subscription.Program.runHere args
    IO.print finish.output
    IO.eprint finish.errors
    return finish.code.toUInt32
  catch failure =>
    IO.eprintln failure
    return 1
