import Subscription.Host.Machine
import Subscription.Proofs.Files.Grounded
import Subscription.Proofs.Files.Paths

/-!
# Where a machine has its id from

A machine that is asked for its id has it from the first file that holds one, and then nothing is
written; or no file holds one, and then the id is made up and kept in a file of its own
(`Machine.found_or_madeUp`). Either way the files settle the id (`Machine.settled_of_machineId`),
and they go on to settle it whatever is done to files of other names (`Machine.Settled.spares`).
Only an id that is kept in a file which cannot be read is not found there again; such is a file that
may be written and nothing else, and was there before (`Machine.Legible`).
-/

namespace Subscription

/-! ### Texts without blanks -/

theorem trimmed_of_forall {text : String} (h : ∀ c ∈ text.toList, isBlank c = false) :
    trimmed text = text := by
  have dropBlanks_of_forall {chars : List Char} (h : ∀ c ∈ chars, isBlank c = false) :
      dropBlanks chars = chars := by
    cases chars with
    | nil => rfl
    | cons c rest =>
      rw [dropBlanks, List.dropWhile_cons_of_neg]
      simp [h c List.mem_cons_self]
  have reversed : ∀ c ∈ text.toList.reverse, isBlank c = false :=
    fun c mem => h c (List.mem_reverse.1 mem)
  rw [trimmed, trimBlanks, dropBlanks_of_forall h, dropBlanks_of_forall reversed,
    List.reverse_reverse, String.ofList_toList]

namespace Uuid

/-- The characters of identifiers. -/
def letters : List Char := "0123456789abcdef-".toList

/-- An id is written with hexadecimal digits and hyphens. -/
theorem mem_letters_of_mem_text {id : Uuid} {c : Char} (h : c ∈ id.text.toList) : c ∈ letters := by
  have digit {value : Nat} (small : value < 16) : value.digitChar ∈ letters := by
    revert value
    decide
  have digits : ∀ d ∈ id.flatMap byteText, d ∈ letters := by
    intro d mem
    obtain ⟨byte, -, written⟩ := List.mem_flatMap.1 mem
    have bound := byte.toNat_lt
    rcases List.mem_pair.1 written with rfl | rfl
    · exact digit (by omega)
    · exact digit (by omega)
  have group {start length : Nat} {d : Char}
      (mem : d ∈ ((id.flatMap byteText).drop start).take length) : d ∈ letters :=
    digits d (List.mem_of_mem_drop (List.mem_of_mem_take mem))
  have hyphen : '-' ∈ letters := by decide
  -- There are five groups of digits, with hyphens between them.
  rw [text, String.toList_ofList] at h
  simp only [List.intercalate, List.intersperse, List.flatten_cons, List.flatten_nil,
    List.mem_append, List.mem_singleton, List.not_mem_nil, or_false] at h
  rcases h with h | rfl | h | rfl | h | rfl | h | rfl | h
  · exact group h
  · exact hyphen
  · exact group h
  · exact hyphen
  · exact group h
  · exact hyphen
  · exact group h
  · exact hyphen
  · exact group h

theorem trimmed_text (id : Uuid) : trimmed id.text = id.text := by
  have noBlanks : ∀ c ∈ letters, isBlank c = false := by decide
  exact trimmed_of_forall fun c mem => noBlanks c (mem_letters_of_mem_text mem)

theorem text_ne_empty (id : Uuid) : id.text ≠ "" := by
  intro empty
  have letters := congrArg String.toList empty
  rw [text, String.toList_ofList] at letters
  simp [List.intercalate, List.intersperse] at letters

end Uuid

namespace Machine

open FileTree

variable {machine : Machine} {tree tree' after : FileTree} {path id : String}
  {events : List LogEvent}

/-! ### The files -/

/-- The file holds text that is not blank, and this is what it says. -/
def HoldsId (tree : FileTree) (path id : String) : Prop :=
  ∃ content text, tree.read (PathText.names path) = .ok content ∧
    Utf8.decode? content = some text ∧ trimmed text = id ∧ id ≠ ""

/-- An id is found in a file exactly if the file holds it. -/
theorem idIn?_eq_some_iff : idIn? tree path = some id ↔ HoldsId tree path id := by
  rw [idIn?, readText, Option.filter_eq_some_iff]
  cases reads : tree.read (PathText.names path) with
  | error cause => simp [HoldsId, reads, Except.toOption]
  | ok content =>
    cases decoded : Utf8.decode? content <;> simp [HoldsId, reads, decoded, Except.toOption]

/-- A file whose name is that of machine ids. -/
def idName : String := "machine-id"

theorem step_idName (place : Path) : step place idName = place ++ [idName] := by
  rw [step, if_neg (by decide), if_neg (by decide)]

/-- The file of the system is in a directory under the root. -/
theorem names_systemPath (machine : Machine) {path : String} {middle : Path}
    (relative : ¬['/'] <+: path.toList) (ends : PathText.parts path = middle ++ [idName])
    (down : ".." ∉ middle) : ∃ dir, PathText.names (machine.systemPath path) = dir ++ [idName] ∧
      ∀ tree : FileTree, tree.Surefooted (PathText.names machine.root) → tree.Surefooted dir := by
  obtain ⟨blanks, empty, whole⟩ :=
    PathText.names_join machine.root relative ends (by decide : idName ≠ "")
  refine ⟨_, whole, fun tree sure => (sure.append fun mem => ?_).append down⟩
  exact absurd (empty _ mem) (by decide)

/-- So is the file of the id that was made up, in a directory of the program. -/
theorem names_ownIdPath (machine : Machine) :
    ∃ dir, PathText.names machine.ownIdPath = dir ++ [idName] := by
  have relative : ¬['/'] <+: idName.toList := by decide
  have ends : PathText.parts idName = [] ++ [idName] := by decide
  obtain ⟨blanks, -, whole⟩ := PathText.names_join machine.dataDir relative ends (by decide)
  exact ⟨_, whole⟩

/-- The place of the id that was made up. -/
def ownIdPlace (machine : Machine) : Path := placeOf (PathText.names machine.ownIdPath)

theorem ownIdPlace_eq (machine : Machine) : ∃ dir, machine.ownIdPlace = dir ++ [idName] := by
  obtain ⟨dir, names⟩ := machine.names_ownIdPath
  refine ⟨placeOf dir, ?_⟩
  rw [ownIdPlace, names, placeOf, List.foldl_append]
  exact step_idName _

theorem names_etc (machine : Machine) :
    ∃ dir, PathText.names (machine.systemPath "etc/machine-id") = dir ++ [idName] ∧
      ∀ tree : FileTree, tree.Surefooted (PathText.names machine.root) → tree.Surefooted dir :=
  machine.names_systemPath (by decide) (by decide : _ = ["etc"] ++ [idName]) (by decide)

theorem names_dbus (machine : Machine) :
    ∃ dir, PathText.names (machine.systemPath "var/lib/dbus/machine-id") = dir ++ [idName] ∧
      ∀ tree : FileTree, tree.Surefooted (PathText.names machine.root) → tree.Surefooted dir :=
  machine.names_systemPath (by decide) (by decide : _ = ["var", "lib", "dbus"] ++ [idName])
    (by decide)

/-- The id is that of the first file that holds one. -/
theorem knownId?_eq (machine : Machine) (tree : FileTree) : machine.knownId? tree =
    (idIn? tree (machine.systemPath "etc/machine-id")).or
      ((idIn? tree (machine.systemPath "var/lib/dbus/machine-id")).or
        (idIn? tree machine.ownIdPath)) := by
  rw [knownId?, idPaths]
  simp only [List.findSome?_cons, List.findSome?_nil]
  cases idIn? tree (machine.systemPath "etc/machine-id") <;>
    cases idIn? tree (machine.systemPath "var/lib/dbus/machine-id") <;>
      cases idIn? tree machine.ownIdPath <;> rfl

/-! ### What is done about the id -/

/-- The id was found: it is that of the first file that holds one, and nothing was done. -/
structure Found (machine : Machine) (tree : FileTree) (id : String) (after : FileTree)
    (events : List LogEvent) : Prop where
  first : ∃ earlier path later, machine.idPaths = earlier ++ path :: later ∧
    HoldsId tree path id ∧ ∀ other ∈ earlier, ∀ otherId, ¬HoldsId tree other otherId
  unchanged : after = tree
  silent : events = []

/-- The file of the program can be read once it is written. -/
def Legible (machine : Machine) (tree : FileTree) : Prop :=
  ∀ file, tree.node? machine.ownIdPlace = some (.file file) → file.writable = true →
    file.readable = true

/-- Where the program has written no file yet, none is illegible. -/
theorem legible_of_absent (absent : tree.node? machine.ownIdPlace = none) :
    machine.Legible tree := by
  intro file there
  cases absent.symm.trans there

/-- No file holds an id, and one was made up. It is now what is in the file of the program, and what
is read there, unless this is a file that may be written and not read; there may be new directories,
and nothing else has changed. -/
structure MadeUp (machine : Machine) (tree : FileTree) (id : String) (after : FileTree) :
    Prop where
  nowhere : ∀ path ∈ machine.idPaths, ∀ otherId, ¬HoldsId tree path otherId
  fresh : id = (Uuid.ofRandom machine.random).text
  leads : after.resolve (PathText.names machine.ownIdPath) = .ok machine.ownIdPlace
  kept : ∃ file, after.node? machine.ownIdPlace = some (.file file) ∧
    file.content = Utf8.encode id
  read : machine.Legible tree → after.read (PathText.names machine.ownIdPath) = .ok (Utf8.encode id)
  others : ∀ other, other ≠ machine.ownIdPlace → after.node? other = tree.node? other ∨
    (tree.node? other = none ∧ after.node? other = some .directory)

theorem found_of_knownId? (known : machine.knownId? tree = some id) :
    machine.Found tree id tree [] := by
  obtain ⟨earlier, path, later, split, holds, none⟩ := List.findSome?_eq_some_iff.1 known
  refine ⟨⟨earlier, path, later, split, idIn?_eq_some_iff.1 holds, ?_⟩, rfl, rfl⟩
  intro other mem otherId holdsOther
  cases (none other mem).symm.trans (idIn?_eq_some_iff.2 holdsOther)

/-- When the file of the program is written, nothing else changes. -/
theorem node?_put_own (machine : Machine) (tree : FileTree) (file : File) (other : Path) :
    (tree.put machine.ownIdPlace (.file file)).node? other =
      if machine.ownIdPlace = other then some (.file file) else tree.node? other := by
  obtain ⟨dir, place⟩ := machine.ownIdPlace_eq
  rw [place]
  exact node?_put_append tree dir idName (.file file) other

/-- No directory is lost when the file of the program is written. -/
theorem directory_put_own {file : File} (free : tree.node? machine.ownIdPlace ≠ some .directory)
    (place : Path) (stands : tree.node? place = some .directory) :
    (tree.put machine.ownIdPlace (.file file)).node? place = some .directory := by
  have elsewhere : machine.ownIdPlace ≠ place := by
    rintro rfl
    exact free stands
  rw [node?_put_own, if_neg elsewhere, stands]

/-- An id that is made up is written to its place after directories were made. -/
theorem of_keepId (h : machine.keepId tree = (.ok id, after)) : id = machine.madeUpId ∧
    ∃ made file, AddsDirectories tree made ∧
      made.resolve (PathText.names machine.ownIdPath) = .ok machine.ownIdPlace ∧
      made.written machine.ownIdPlace (Utf8.encode machine.madeUpId) = .ok file ∧
      after = made.put machine.ownIdPlace (.file file) := by
  have adds := AddsDirectories.makeDirectories tree (PathText.names machine.dataDir)
  rw [keepId] at h
  split at h
  · cases congrArg Prod.fst h
  · next made directories =>
    rw [directories] at adds
    split at h
    · cases congrArg Prod.fst h
    · next written writes =>
      obtain ⟨same, rfl⟩ := Prod.mk.inj h
      obtain ⟨place, file, found, new, rfl⟩ := write_eq_ok.1 writes
      obtain rfl : place = machine.ownIdPlace := eq_placeOf_of_resolve found
      exact ⟨(Except.ok.inj same).symm, made, file, adds, found, new, rfl⟩

/-- An id that cannot be kept leaves directories at most. -/
theorem addsDirectories_of_keepId {cause : PlatformError}
    (h : machine.keepId tree = (.error cause, after)) : AddsDirectories tree after := by
  have adds := AddsDirectories.makeDirectories tree (PathText.names machine.dataDir)
  rw [keepId] at h
  split at h
  · next made directories =>
    rw [directories] at adds
    exact (Prod.mk.inj h).2 ▸ adds
  · next made directories =>
    rw [directories] at adds
    split at h
    · exact (Prod.mk.inj h).2 ▸ adds
    · cases congrArg Prod.fst h

/-- To make directories changes nothing about the file of the program. -/
theorem legible_iff_of_adds {made : FileTree} (adds : AddsDirectories tree made) :
    machine.Legible made ↔ machine.Legible tree := by
  obtain ⟨dir, place⟩ := machine.ownIdPlace_eq
  simp only [Legible, place, (adds.spares idName).files]

/-- The file of the program goes on to be one that can be read, or not. -/
theorem readable_of_written {made : FileTree} {file : File} {content : List UInt8}
    (legible : machine.Legible made)
    (written : made.written machine.ownIdPlace content = .ok file) : file.readable = true := by
  rcases written_eq_ok.1 written with ⟨-, rfl⟩ | ⟨old, there, writable, rfl⟩
  · rfl
  · exact legible old there writable

/-- An id that could be kept is made up as `MadeUp` says. -/
theorem madeUp_of_keepId (unknown : machine.knownId? tree = none)
    (h : machine.keepId tree = (.ok id, after)) : machine.MadeUp tree id after := by
  obtain ⟨rfl, made, file, adds, found, written, rfl⟩ := of_keepId h
  have still : (made.put machine.ownIdPlace (.file file)).resolve
      (PathText.names machine.ownIdPath) = .ok machine.ownIdPlace :=
    resolve_of_directories (directory_put_own (not_directory_of_written written)) found
  have there := (node?_put_own machine made file machine.ownIdPlace).trans (if_pos rfl)
  have content := content_of_written written
  refine ⟨fun path mem otherId holds => ?_, rfl, still, ⟨file, there, content⟩, fun legible => ?_,
    fun other ne => ?_⟩
  · cases (List.findSome?_eq_none_iff.1 unknown path mem).symm.trans (idIn?_eq_some_iff.2 holds)
  · have readable := readable_of_written ((legible_iff_of_adds adds).2 legible) written
    exact read_eq_ok.2 ⟨_, file, still, there, content ▸ File.read_of_readable readable⟩
  · rw [node?_put_own, if_neg (Ne.symm ne)]
    exact adds.places other

theorem machineId_of_known (known : machine.knownId? tree = some id) :
    machine.machineId tree = (.ok id, tree, []) := by
  delta machineId
  rw [known]

theorem machineId_of_unknown (unknown : machine.knownId? tree = none) :
    machine.machineId tree = ((machine.keepId tree).1, (machine.keepId tree).2,
      [.generatingMachineId machine.ownIdPath]) := by
  delta machineId
  rw [unknown]

/-- A machine that tells an id knew it from a file, or kept it just now. -/
theorem of_machineId (told : machine.machineId tree = (.ok id, after, events)) :
    (machine.knownId? tree = some id ∧ after = tree ∧ events = []) ∨
      (machine.knownId? tree = none ∧ machine.keepId tree = (.ok id, after)) := by
  cases known : machine.knownId? tree with
  | some found =>
    rw [machineId_of_known known] at told
    obtain ⟨same, rest⟩ := Prod.mk.inj told
    obtain ⟨rfl, rfl⟩ := Prod.mk.inj rest
    exact .inl ⟨congrArg some (Except.ok.inj same), rfl, rfl⟩
  | none =>
    rw [machineId_of_unknown known] at told
    obtain ⟨same, rest⟩ := Prod.mk.inj told
    exact .inr ⟨rfl, Prod.ext same (Prod.mk.inj rest).1⟩

/-- Where no file holds an id and the file of the program can be written, an id is made up. -/
theorem machineId_of_write {made : FileTree} (unknown : machine.knownId? tree = none)
    (makes : tree.makeDirectories (PathText.names machine.dataDir) = (.ok (), made))
    (written : made.write (PathText.names machine.ownIdPath) (Utf8.encode machine.madeUpId) =
      .ok after) : machine.machineId tree =
        (.ok machine.madeUpId, after, [.generatingMachineId machine.ownIdPath]) := by
  have keeps : machine.keepId tree = (.ok machine.madeUpId, after) := by
    rw [keepId, makes]
    dsimp only
    rw [written]
  rw [machineId_of_unknown unknown, keeps]

/-- An id that a machine tells was found, or it was made up. -/
theorem found_or_madeUp (told : machine.machineId tree = (.ok id, after, events)) :
    machine.Found tree id after events ∨ machine.MadeUp tree id after := by
  rcases of_machineId told with ⟨known, rfl, rfl⟩ | ⟨unknown, keeps⟩
  · exact .inl (found_of_knownId? known)
  · exact .inr (madeUp_of_keepId unknown keeps)

/-! ### Files that settle the id -/

/-- The files settle the id of the machine: whatever is asked for, it is this one. -/
structure Settled (machine : Machine) (id : String) (tree : FileTree) : Prop where
  grounded : tree.Grounded
  sure : tree.Surefooted (PathText.names machine.root)
  known : machine.knownId? tree = some id

theorem Settled.machineId (h : machine.Settled id tree) :
    machine.machineId tree = (.ok id, tree, []) := machineId_of_known h.known

/-- What the machine is made of does not matter, only where its files are. -/
theorem Settled.congr {machine' : Machine} (h : machine'.Settled id tree)
    (root : machine'.root = machine.root) (dataDir : machine'.dataDir = machine.dataDir) :
    machine.Settled id tree := by
  obtain ⟨grounded, sure, known⟩ := h
  obtain ⟨_, _, _, _⟩ := machine
  obtain ⟨_, _, _, _⟩ := machine'
  obtain rfl := root
  obtain rfl := dataDir
  exact ⟨grounded, sure, known⟩

/-- A file of the system holds an id after other files have changed if it did before. -/
theorem holdsId_iff_of_spares (h : Spares idName tree tree') (grounded : tree.Grounded)
    {dir : Path} (names : PathText.names path = dir ++ [idName]) (sure : tree.Surefooted dir) :
    HoldsId tree' path id ↔ HoldsId tree path id := by
  have same (content : List UInt8) : tree'.read (dir ++ [idName]) = .ok content ↔
      tree.read (dir ++ [idName]) = .ok content := h.read_iff step_idName grounded sure
  simp only [HoldsId, names, same]

/-- A file that is spared goes on to hold its id. -/
theorem holdsId_of_spares (h : Spares idName tree tree') {dir : Path}
    (names : PathText.names path = dir ++ [idName]) (holds : HoldsId tree path id) :
    HoldsId tree' path id := by
  obtain ⟨content, text, reads, decoded, rest⟩ := holds
  rw [names] at reads
  exact ⟨content, text, names ▸ h.read_of_read step_idName reads, decoded, rest⟩

/-- In a file that is spared the same id is found as before, or none as before. -/
theorem idIn?_eq_of_spares (h : Spares idName tree tree') (grounded : tree.Grounded)
    {dir : Path} (names : PathText.names path = dir ++ [idName]) (sure : tree.Surefooted dir) :
    idIn? tree' path = idIn? tree path := by
  ext id
  rw [idIn?_eq_some_iff, idIn?_eq_some_iff]
  exact holdsId_iff_of_spares h grounded names sure

/-- Whatever is done to files of other names, the id stays settled. -/
theorem Settled.spares (h : machine.Settled id tree) (spares : Spares idName tree tree') :
    machine.Settled id tree' := by
  refine ⟨spares.grounded h.grounded, h.sure.mono spares.directories, ?_⟩
  obtain ⟨etc, namesEtc, sureEtc⟩ := machine.names_etc
  obtain ⟨dbus, namesDbus, sureDbus⟩ := machine.names_dbus
  obtain ⟨own, namesOwn⟩ := machine.names_ownIdPath
  have known := h.known
  rw [knownId?_eq] at known ⊢
  rw [idIn?_eq_of_spares spares h.grounded namesEtc (sureEtc tree h.sure),
    idIn?_eq_of_spares spares h.grounded namesDbus (sureDbus tree h.sure)]
  -- The file of the program counts only where no file of the system does, and these are the same.
  simp only [Option.or_eq_some_iff] at known ⊢
  refine known.imp_right (And.imp_right fun rest => rest.imp_right (And.imp_right fun holds => ?_))
  exact idIn?_eq_some_iff.2 (holdsId_of_spares spares namesOwn (idIn?_eq_some_iff.1 holds))

/-- An id that is in a file is told as it was written. -/
theorem holdsId_of_read
    (reads : tree.read (PathText.names path) = .ok (Utf8.encode machine.madeUpId)) :
    HoldsId tree path machine.madeUpId :=
  ⟨_, _, reads, Utf8.decode?_encode _, Uuid.trimmed_text _, Uuid.text_ne_empty _⟩

/-- After an id was made up, a file of the system holds what it held before, unless it is the file
that was written. -/
theorem holdsId_of_madeUp {dir : Path} {other : String} (grounded : tree.Grounded)
    (madeUp : machine.MadeUp tree id after) (names : PathText.names path = dir ++ [idName])
    (sure : tree.Surefooted dir) (holds : HoldsId after path other) :
    HoldsId tree path other ∨ other = id := by
  obtain ⟨content, text, reads, decoded, rfl, nonempty⟩ := holds
  rw [names] at reads
  obtain ⟨between, file, found, there, held⟩ := (read_concat_eq_ok step_idName).1 reads
  by_cases here : between ++ [idName] = machine.ownIdPlace
  · obtain ⟨own, stands, written⟩ := madeUp.kept
    rw [← here, there] at stands
    obtain rfl := Node.file.inj (Option.some.inj stands)
    rw [← File.content_of_read held, written, Utf8.decode?_encode] at decoded
    rw [← Option.some.inj decoded, madeUp.fresh]
    exact .inr (Uuid.trimmed_text _)
  · rcases madeUp.others _ here with same | ⟨-, made⟩
    · have before := same ▸ there
      have led := grounded.resolve_concat_eq_ok step_idName sure
        (before ▸ Option.some_ne_none _) found
      refine .inl ⟨content, text, ?_, decoded, rfl, nonempty⟩
      rw [names]
      exact (read_concat_eq_ok step_idName).2 ⟨between, file, led, before, held⟩
    · cases there.symm.trans made

/-- An id that was kept where it can be read is the one that the machine has from then on. -/
theorem knownId?_of_madeUp (grounded : tree.Grounded)
    (sure : tree.Surefooted (PathText.names machine.root)) (legible : machine.Legible tree)
    (madeUp : machine.MadeUp tree id after) : machine.knownId? after = some id := by
  obtain ⟨etc, namesEtc, sureEtc⟩ := machine.names_etc
  obtain ⟨dbus, namesDbus, sureDbus⟩ := machine.names_dbus
  -- A file of the system held no id before, so it holds none now or the one that was written.
  have system {path : String} {dir : Path} (mem : path ∈ machine.idPaths)
      (names : PathText.names path = dir ++ [idName]) (sureDir : tree.Surefooted dir) :
      idIn? after path = none ∨ idIn? after path = some id := by
    cases held : idIn? after path with
    | none => exact .inl rfl
    | some other =>
      have holds := idIn?_eq_some_iff.1 held
      rcases holdsId_of_madeUp grounded madeUp names sureDir holds with before | same
      · exact (madeUp.nowhere path mem other before).elim
      · exact .inr (congrArg some same)
  have own : HoldsId after machine.ownIdPath id := by
    have read := madeUp.read legible
    have fresh := madeUp.fresh
    subst fresh
    exact holdsId_of_read read
  rw [knownId?_eq, idIn?_eq_some_iff.2 own]
  rcases system (by simp [idPaths]) namesEtc (sureEtc tree sure) with first | first <;>
    rcases system (by simp [idPaths]) namesDbus (sureDbus tree sure) with second | second <;>
      simp [first, second]

/-! ### Machines whose files are in order -/

/-- The files of a machine, whether or not they settle its id: an id that is made up will be found
again among them. -/
structure Sound (machine : Machine) (tree : FileTree) : Prop where
  grounded : tree.Grounded
  sure : tree.Surefooted (PathText.names machine.root)
  legible : machine.Legible tree

theorem Sound.spares (h : machine.Sound tree) (spares : Spares idName tree tree') :
    machine.Sound tree' := by
  refine ⟨spares.grounded h.grounded, h.sure.mono spares.directories, fun file there => ?_⟩
  obtain ⟨dir, place⟩ := machine.ownIdPlace_eq
  rw [place, spares.files] at there
  exact h.legible file (place ▸ there)

theorem Sound.congr {machine' : Machine} (h : machine'.Sound tree)
    (root : machine'.root = machine.root) (dataDir : machine'.dataDir = machine.dataDir) :
    machine.Sound tree := by
  obtain ⟨grounded, sure, legible⟩ := h
  obtain ⟨_, _, _, _⟩ := machine
  obtain ⟨_, _, _, _⟩ := machine'
  obtain rfl := root
  obtain rfl := dataDir
  exact ⟨grounded, sure, legible⟩

/-- Whatever becomes of keeping an id, the files stay in order. -/
theorem Sound.keepId (h : machine.Sound tree) : machine.Sound (machine.keepId tree).2 := by
  cases kept : machine.keepId tree with | mk result after =>
  cases result with
  | error cause => exact h.spares ((addsDirectories_of_keepId kept).spares idName)
  | ok id =>
    obtain ⟨rfl, made, file, adds, found, written, rfl⟩ := of_keepId kept
    have sound : machine.Sound made := h.spares (adds.spares idName)
    have free := not_directory_of_written written
    have others (p : Path) (elsewhere : machine.ownIdPlace ≠ p) :
        (made.put machine.ownIdPlace (.file file)).node? p = made.node? p := by
      rw [node?_put_own, if_neg elsewhere]
    refine ⟨?_, sound.sure.mono (directory_put_own free), fun other there _ => ?_⟩
    · exact sound.grounded.change others
        (fun _ => sound.grounded.inDirectory_of_resolve found) fun stands => (free stands).elim
    · rw [node?_put_own, if_pos rfl] at there
      obtain rfl := Node.file.inj (Option.some.inj there)
      exact readable_of_written sound.legible written

/-- To ask for the id leaves a sound tree sound. -/
theorem Sound.machineId (h : machine.Sound tree) : machine.Sound (machine.machineId tree).2.1 := by
  cases known : machine.knownId? tree with
  | some id =>
    rw [machineId_of_known known]
    exact h
  | none =>
    rw [machineId_of_unknown known]
    exact h.keepId

/-- Once a machine has told an id, its files settle this id. -/
theorem settled_of_machineId (sound : machine.Sound tree)
    (told : machine.machineId tree = (.ok id, after, events)) : machine.Settled id after := by
  have behind : machine.Sound after := by simpa only [told] using sound.machineId
  refine ⟨behind.grounded, behind.sure, ?_⟩
  rcases of_machineId told with ⟨known, rfl, -⟩ | ⟨unknown, keeps⟩
  · exact known
  · have madeUp := madeUp_of_keepId unknown keeps
    exact knownId?_of_madeUp sound.grounded sound.sure sound.legible madeUp

/-- An id that was found is settled, whatever file the program has. -/
theorem settled_of_found (grounded : tree.Grounded)
    (sure : tree.Surefooted (PathText.names machine.root))
    (found : machine.Found tree id after events) : machine.Settled id after := by
  obtain ⟨⟨earlier, path, later, split, holds, none⟩, rfl, -⟩ := found
  refine ⟨grounded, sure, List.findSome?_eq_some_iff.2 ⟨earlier, path, later, split, ?_, ?_⟩⟩
  · exact idIn?_eq_some_iff.2 holds
  · intro other mem
    cases held : idIn? after other with
    | none => rfl
    | some otherId => exact (none other mem otherId (idIn?_eq_some_iff.1 held)).elim

end Machine

end Subscription
