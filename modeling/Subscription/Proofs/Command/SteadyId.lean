import Subscription.Proofs.Command.OneId

/-!
# A machine keeps its id

The id of a machine is looked for in three files, and made up if none of them holds one. Once the
machine has told its id, all commands after that use the same one (`Command.machine_keeps_its_id`).
This has two conditions. The path of the root must not go up from a directory that is yet to be
made, and the file that a made up id is kept in must not be one that can be written and not read
(`Command.machine_changes_its_id`).
-/

namespace Subscription

variable {machine : Machine} {id : String} {env : Environment FileTree} {world : World FileTree}

namespace Command

/-- **A machine keeps its id.** The id that it tells is that of the first file that holds one, and
nothing is written; or no file holds one, and the id is made up and put in the file of the program,
with no other file changed. From then on every command on the machine uses this id, whatever the
servers answer: each request bears it, before and after each command the host tells it, and the run
is the same as on a host that always tells it. In between, files that are not called `machine-id`
may change, as they do in the rest of a command that asked for the id. The path of the root must not
go up from a directory that is yet to be made, and an id that was made up must be put where it can
be read. On such a machine all requests of a run bear one id also when the run begins before the id
is told. -/
theorem machine_keeps_its_id {tree after : FileTree} {events : List LogEvent}
    (told : machine.machineId tree = (.ok id, after, events)) :
    (machine.Found tree id after events ∨ machine.MadeUp tree id after) ∧
    (tree.Grounded → tree.Surefooted (PathText.names machine.root) →
      (machine.MadeUp tree id after → machine.Legible tree) →
      ∀ (world : World FileTree) (steps : List (Environment FileTree × Command)),
        FileTree.Spares Machine.idName after world.state →
        (∀ step ∈ steps, machine.Surrounds step.1) →
        (∀ turn ∈ turns world steps,
          turn.env.host.machineId turn.before.state = (.ok id, turn.before.state, []) ∧
          turn.env.host.machineId turn.after.state = (.ok id, turn.after.state, []) ∧
          ∀ request ∈ turn.requests, request.Bears id) ∧
        let fixed := steps.map fun step => (step.1.telling id, step.2)
        ((turns world fixed).map fun turn => (turn.result, turn.after)) =
          (turns world steps).map fun turn => (turn.result, turn.after)) ∧
    (tree.Grounded → tree.Surefooted (PathText.names machine.root) → machine.Legible tree →
      ∀ (world : World FileTree) (steps : List (Environment FileTree × Command)),
        FileTree.Spares Machine.idName tree world.state →
        (∀ step ∈ steps, machine.Surrounds step.1) →
        ∃ one, ∀ turn ∈ turns world steps, ∀ request ∈ turn.requests, request.Bears one) := by
  have origin := Machine.found_or_madeUp told
  refine ⟨origin, fun grounded sure legible world steps spares surrounds => ?_,
    fun grounded sure legible world steps spares surrounds => ?_⟩
  · -- The id is settled by the file it was found in, or by the one it was put in.
    have first : machine.Settled id after := by
      rcases origin with found | madeUp
      · exact Machine.settled_of_found grounded sure found
      · exact Machine.settled_of_machineId ⟨grounded, sure, legible madeUp⟩ told
    have settled := first.spares spares
    have tells : ∀ step ∈ steps, step.1.Tells (machine.Settled id) id :=
      fun step mem => (surrounds step mem).tells id
    refine ⟨fun turn mem => bears_of_settled surrounds settled mem, ?_⟩
    exact (turns_eq_telling tells settled).1
  · have sound : machine.Sound tree := ⟨grounded, sure, legible⟩
    exact requests_bear_one_id surrounds (sound.spares spares)

/-! ### Cases -/

/-- What is in the files that describe the system. -/
def systemFiles (root : Path) : FileTree :=
  [(root ++ ["etc", "os-release"], .file (Utf8.encode "VERSION_CODENAME=noble")),
    (root ++ ["proc", "sys", "kernel", "osrelease"], .file (Utf8.encode "6.8.0")),
    (root ++ ["proc", "sys", "kernel"], .directory), (root ++ ["proc", "sys"], .directory),
    (root ++ ["proc"], .directory), (root ++ ["etc"], .directory)]

/-- What they say of it. -/
def systemPlatform : Platform where
  arch := "amd64"
  kernel := "6.8.0"
  series := "noble"
  distribution := ""
  release := ""

/-- The surroundings of a machine whose server cannot be reached. -/
def unreachable (machine : Machine) : Environment FileTree where
  store := .files (PathText.names (PathText.join machine.dataDir "cache"))
  host := machine.host
  server _ _ := ([], .error (.connection "http://server" "no answer"))
  processors := []

theorem surrounds_unreachable (machine : Machine) : machine.Surrounds (unreachable machine) :=
  ⟨rfl, machine.processor, machine.random, rfl⟩

/-- Where there is no file with a token, there is no token. -/
theorem storedToken_of_notFound {tree : FileTree} {dir : Path} (store : env.store = .files dir)
    (absent : tree.read (dir ++ [FileStore.fileName Store.tokenKey]) = .error .notFound) :
    env.storedToken tree = .ok none := by
  have read : ((Store.files dir).read Store.tokenKey).perform tree = (.ok none, tree) := by
    change (FileStore.read dir Store.tokenKey tree, tree) = _
    rw [FileStore.read, FileStore.fileName?, if_pos (Store.isValidKey_of_machine (.inl rfl))]
    simp only [bind, Except.bind, absent]
  rw [Environment.storedToken, store, read]

/-- On a machine without a token that tells its id and its platform, to attach it is to send the
request of one exchange, whatever the server answers. -/
theorem requests_attach {σ : Type} {env : Environment σ} {world : World σ}
    (reads : env.store.ReadsOnly) (found : env.storedToken world.state = .ok none)
    (told : (env.host.machineId world.state).1 = .ok id) {platform : Platform}
    (placed : env.host.platform (env.named world).state = .ok platform) (token : String) :
    Turn.requests { env, command := .attach token, before := world } =
      [(TokenExchange.attach token).request id platform] := by
  have fetched : World.Sent world ((Update.fetch env none (some token)).perform world).2
      [(TokenExchange.attach token).request id platform] := by
    rw [Update.perform_fetch]
    exact TokenExchange.sent_action told placed
  refine Turn.requests_of_sent ?_
  have ran : ((Command.attach token).run env |>.perform world).2 =
      ((Update.run env (some token)).perform world).2 := Action.perform_bind_pure _ _ world
  rw [Turn.after, ran, Update.perform_run reads found]
  exact Action.sent_bind fetched fun body => Update.quiet_serve none body

/-- A machine that has a directory for its program. -/
def plainMachine : Machine where
  root := "/"
  dataDir := "/data"
  processor := "x86_64"
  random := List.replicate 16 0

/-- Its files, without an id. -/
def plainTree : FileTree := (["data"], .directory) :: systemFiles []

/-- The id is made up, and a machine that is then to be attached tells it to the server. -/
theorem machine_keeps_its_id_plain :
    let id := plainMachine.madeUpId
    let after := plainTree.put ["data", "machine-id"] (.file (Utf8.encode id))
    let events := [LogEvent.generatingMachineId plainMachine.ownIdPath]
    let turn : Turn FileTree :=
      { env := unreachable plainMachine, command := .attach "token", before := { state := after } }
    plainMachine.machineId plainTree = (.ok id, after, events) ∧
    plainTree.Grounded ∧ plainTree.Surefooted (PathText.names plainMachine.root) ∧
    plainMachine.Legible plainTree ∧
    plainMachine.Surrounds turn.env ∧ turn.requests.length = 1 ∧
    (plainMachine.Found plainTree id after events ∨ plainMachine.MadeUp plainTree id after) ∧
    turn.env.host.machineId turn.after.state = (.ok id, turn.after.state, []) ∧
    (∀ request ∈ turn.requests, request.Bears id) ∧
    ∃ one, ∀ first ∈ turns { state := plainTree } [(turn.env, turn.command)],
      ∀ request ∈ first.requests, request.Bears one := by
  intro id after events turn
  have made : plainTree.makeDirectories (PathText.names plainMachine.dataDir) =
      (.ok (), plainTree) := FileTree.makeDirectories_of_isDirectory (by decide +kernel)
  have written : plainTree.write (PathText.names plainMachine.ownIdPath) (Utf8.encode id) =
      .ok after := by decide +kernel
  have told : plainMachine.machineId plainTree = (.ok id, after, events) :=
    Machine.machineId_of_write (by decide +kernel) made written
  have grounded : plainTree.Grounded := by decide +kernel
  have sure : plainTree.Surefooted (PathText.names plainMachine.root) :=
    FileTree.surefooted_of_isDirectory (by decide +kernel)
  have legible : plainMachine.Legible plainTree :=
    Machine.legible_of_absent (by decide +kernel)
  have surrounds : ∀ step ∈ [(turn.env, turn.command)], plainMachine.Surrounds step.1 := by
    simpa using surrounds_unreachable plainMachine
  obtain ⟨origin, kept, begun⟩ := machine_keeps_its_id told
  obtain ⟨turns, -⟩ := kept grounded sure (fun _ => legible) turn.before _ (.refl _ _) surrounds
  obtain ⟨asked, behind, bears⟩ := turns turn List.mem_cons_self
  have one : turn.requests = [(TokenExchange.attach "token").request id systemPlatform] :=
    requests_attach (Store.readsOnly_files _) (storedToken_of_notFound rfl (by decide +kernel))
      (congrArg Prod.fst asked) (by decide +kernel) "token"
  exact ⟨told, grounded, sure, legible, surrounds_unreachable _, congrArg List.length one, origin,
    behind, bears, begun grounded sure legible { state := plainTree } _ (.refl _ _) surrounds⟩

/-! ### Ids that change -/

/-- The machine tells an id and has it in its file, and then tells another one to the server. -/
def ChangesId (machine : Machine) (tree : FileTree) (id other : String) : Prop :=
  id ≠ other ∧ ∃ after events, machine.machineId tree = (.ok id, after, events) ∧
    ∃ turn : Turn FileTree, machine.Surrounds turn.env ∧ turn.before.state = after ∧
      (turn.env.host.machineId after).1 = .ok other ∧
      ∃ request ∈ turn.requests, request.Bears other

/-- A machine whose root is named by a way through a directory that is yet to be made. -/
def wanderingMachine : Machine :=
  { plainMachine with root := "/data/x/../../root", dataDir := "/data/x/.." }

/-- Its files, with an id under the root. -/
def wanderingTree : FileTree :=
  (["data"], .directory) :: (["root"], .directory) ::
    (["root", "etc", "machine-id"], .file (Utf8.encode "first")) :: systemFiles ["root"]

/-- An id that is made up makes a directory for its file. Through this directory the files of the
system are found then, with another id, and the machine goes on under that one. -/
theorem changesId_wandering :
    ChangesId wanderingMachine wanderingTree wanderingMachine.madeUpId "first" := by
  let id := wanderingMachine.madeUpId
  let made := wanderingTree.put ["data", "x"] .directory
  let after := made.put ["data", "machine-id"] (.file (Utf8.encode id))
  let turn : Turn FileTree :=
    { env := unreachable wanderingMachine
      command := .attach "token"
      before := { state := after } }
  -- The way to the file leads through `x`, so `x` is made, and behind it the way up is open.
  have makes : wanderingTree.makeDirectories (PathText.names wanderingMachine.dataDir) =
      (.ok (), made) := by
    have names : PathText.names wanderingMachine.dataDir = ["", "data", "x", ".."] := by
      decide +kernel
    have missing : wanderingTree.makeDirectory ["", "data", "x", ".."] = .error .notFound := by
      decide +kernel
    have above : FileTree.above ["", "data", "x", ".."] = ["", "data", "x"] := by decide +kernel
    have outer : wanderingTree.makeDirectory ["", "data", "x"] = .ok made := by decide +kernel
    rw [names, FileTree.makeDirectories, if_neg (List.cons_ne_nil _ _), missing, above,
      FileTree.makeDirectories, if_neg (List.cons_ne_nil _ _), outer]
    decide +kernel
  have written : made.write (PathText.names wanderingMachine.ownIdPath) (Utf8.encode id) =
      .ok after := by decide +kernel
  have told := Machine.machineId_of_write (by decide +kernel) makes written
  -- Through `x` the root is found now, with the id that the host did not see before.
  have known : wanderingMachine.knownId? after = some "first" := by decide +kernel
  have later : (wanderingMachine.machineId after).1 = .ok "first" :=
    congrArg Prod.fst (Machine.machineId_of_known known)
  have one : turn.requests = [(TokenExchange.attach "token").request "first" systemPlatform] :=
    requests_attach (Store.readsOnly_files _) (storedToken_of_notFound rfl (by decide +kernel))
      later (by decide +kernel) "token"
  have surrounds := surrounds_unreachable wanderingMachine
  exact ⟨by decide +kernel, after, _, told, turn, surrounds, rfl, later,
    _, one ▸ List.mem_singleton_self _, .exchange _ _⟩

/-- The files of a machine with a file for its id that may be written, but not read. -/
def closedTree : FileTree :=
  (["data"], .directory) ::
    (["data", "machine-id"], .file { content := [], readable := false }) :: systemFiles []

/-- The same machine when other random bytes come up. -/
def laterMachine : Machine := { plainMachine with random := List.replicate 16 1 }

/-- An id that was made up is written to its file, and not found there again. -/
theorem changesId_closed :
    ChangesId plainMachine closedTree plainMachine.madeUpId laterMachine.madeUpId := by
  let kept (id : String) : FileTree :=
    closedTree.put ["data", "machine-id"] (.file { content := Utf8.encode id, readable := false })
  let after := kept plainMachine.madeUpId
  let turn : Turn FileTree :=
    { env := unreachable laterMachine, command := .attach "token", before := { state := after } }
  have written : closedTree.write (PathText.names plainMachine.ownIdPath)
      (Utf8.encode plainMachine.madeUpId) = .ok after := by decide +kernel
  have told := Machine.machineId_of_write (by decide +kernel)
    (FileTree.makeDirectories_of_isDirectory (by decide +kernel)) written
  -- The file takes the second id as well as the first, and shows neither.
  have rewritten : after.write (PathText.names laterMachine.ownIdPath)
      (Utf8.encode laterMachine.madeUpId) = .ok (kept laterMachine.madeUpId) := by decide +kernel
  have later := Machine.machineId_of_write (by decide +kernel)
    (FileTree.makeDirectories_of_isDirectory (by decide +kernel)) rewritten
  have one : turn.requests =
      [(TokenExchange.attach "token").request laterMachine.madeUpId systemPlatform] :=
    requests_attach (Store.readsOnly_files _) (storedToken_of_notFound rfl (by decide +kernel))
      (congrArg Prod.fst later) (by decide +kernel) "token"
  have surrounds : plainMachine.Surrounds turn.env := ⟨rfl, _, laterMachine.random, rfl⟩
  exact ⟨by decide +kernel, after, _, told, turn, surrounds, rfl, congrArg Prod.fst later,
    _, one ▸ List.mem_singleton_self _, .exchange _ _⟩

/-- An id that was made up is not kept where the root is found only behind a directory that was made
for its file, nor where its file can be written and not read. Each of the two happens without the
other. -/
theorem machine_changes_its_id :
    (wanderingTree.Grounded ∧ wanderingMachine.Legible wanderingTree ∧
      ChangesId wanderingMachine wanderingTree wanderingMachine.madeUpId "first") ∧
    closedTree.Grounded ∧ closedTree.Surefooted (PathText.names plainMachine.root) ∧
      ChangesId plainMachine closedTree plainMachine.madeUpId laterMachine.madeUpId := by
  refine ⟨⟨by decide +kernel, Machine.legible_of_absent (by decide +kernel), changesId_wandering⟩,
    by decide +kernel, ?_, changesId_closed⟩
  exact FileTree.surefooted_of_isDirectory (by decide +kernel)

end Command

end Subscription
