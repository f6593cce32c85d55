import Subscription.Files.Tree

/-!
# Looking paths up in trees that grow

A path that leads to a place still does so in every tree that has all directories of the first one
(`resolve_of_directories`). Making directories keeps whatever is there, and it ends with the
directory asked for (`makeDirectories_eq_ok`). What a write leaves at its place is the file that
stood there with other content, or a new one (`written_eq_ok`).
-/

namespace Subscription

namespace FileTree

variable {tree tree' : FileTree} {place target path : Path} {name : String}

/-! ### Paths that go on -/

/-- A name is looked up in a directory, if it is no longer than a name may be. -/
theorem resolveFrom_cons_eq_ok : tree.resolveFrom place (name :: path) = .ok target ↔
    tree.node? place = some .directory ∧ name.utf8ByteSize ≤ longestName ∧
      tree.resolveFrom (step place name) path = .ok target := by
  rw [resolveFrom]
  cases tree.node? place with
  | none => simp
  | some node =>
    cases node with
    | file file => simp
    | directory =>
      by_cases long : longestName < name.utf8ByteSize
      · simp [long, Nat.not_le.2 long]
      · simp [long, Nat.not_lt.1 long]

/-- A path is looked up part by part. -/
theorem resolveFrom_append (tree : FileTree) (place path rest : Path) :
    tree.resolveFrom place (path ++ rest) =
      (tree.resolveFrom place path).bind fun middle => tree.resolveFrom middle rest := by
  induction path generalizing place with
  | nil => rfl
  | cons name path ih =>
    rw [List.cons_append, resolveFrom, resolveFrom]
    split
    · rfl
    · rfl
    · split
      · rfl
      · exact ih _

private theorem foldr_le_foldr {start start' : Nat} (h : start ≤ start') (path : Path) :
    path.foldr (fun name length => name.utf8ByteSize + 1 + length) start ≤
      path.foldr (fun name length => name.utf8ByteSize + 1 + length) start' := by
  induction path with
  | nil => exact h
  | cons name path ih => exact Nat.add_le_add_left ih _

/-- A shorter name makes a shorter path. -/
theorem pathLength_append_le {name name' : String} (h : name.utf8ByteSize ≤ name'.utf8ByteSize)
    (path : Path) : pathLength (path ++ [name]) ≤ pathLength (path ++ [name']) := by
  rw [pathLength, pathLength, List.foldr_append, List.foldr_append]
  refine Nat.sub_le_sub_right (foldr_le_foldr ?_ path) 1
  simp only [List.foldr_cons, List.foldr_nil]
  omega

/-- A path is no longer than one that goes on from it. -/
theorem pathLength_le_append (path rest : Path) : pathLength path ≤ pathLength (path ++ rest) := by
  rw [pathLength, pathLength, List.foldr_append]
  exact Nat.sub_le_sub_right (foldr_le_foldr (Nat.zero_le _) path) 1

/-- Whether a name in a directory can be looked up. -/
def NameFits (dir : Path) (name : String) : Prop :=
  pathLength (dir ++ [name]) ≤ longestPath ∧ name.utf8ByteSize ≤ longestName

instance (dir : Path) (name : String) : Decidable (NameFits dir name) :=
  inferInstanceAs (Decidable (_ ∧ _))

/-- A path leads to a place if it is not too long and each of its steps can be taken. -/
theorem resolve_eq_ok : tree.resolve path = .ok place ↔
    pathLength path ≤ longestPath ∧ tree.resolveFrom [] path = .ok place := by
  rw [resolve]
  split
  · next long => simp [Nat.not_le.2 long]
  · next short => simp [Nat.not_lt.1 short]

/-- A name in a directory leads to its place there, unless it does not fit. -/
theorem resolve_append_singleton (resolves : tree.resolve path = .ok place)
    (stands : tree.node? place = some .directory) (plain : step place name = place ++ [name]) :
    tree.resolve (path ++ [name]) =
      if NameFits path name then .ok (place ++ [name]) else .error .nameTooLong := by
  obtain ⟨-, found⟩ := resolve_eq_ok.1 resolves
  have last : tree.resolveFrom [] (path ++ [name]) =
      if longestName < name.utf8ByteSize then .error .nameTooLong else .ok (place ++ [name]) := by
    rw [resolveFrom_append, found]
    simp only [Except.bind, resolveFrom, stands, plain]
  rw [resolve, last]
  by_cases long : longestPath < pathLength (path ++ [name])
  · rw [if_pos long, if_neg fun fits => Nat.not_le.2 long fits.1]
  · rw [if_neg long]
    by_cases wide : longestName < name.utf8ByteSize
    · rw [if_pos wide, if_neg fun fits => Nat.not_le.2 wide fits.2]
    · rw [if_neg wide, if_pos ⟨Nat.not_lt.1 long, Nat.not_lt.1 wide⟩]

/-- Where a path leads is in its names alone; in the tree is only whether it leads there. -/
theorem eq_foldl_of_resolveFrom (found : tree.resolveFrom place path = .ok target) :
    target = path.foldl step place := by
  induction path generalizing place with
  | nil => exact (Except.ok.inj found).symm
  | cons name path ih => exact ih (resolveFrom_cons_eq_ok.1 found).2.2

/-- Where a path leads is read off the path; the tree says only whether it leads there. -/
theorem eq_placeOf_of_resolve (found : tree.resolve path = .ok place) : place = placeOf path :=
  eq_foldl_of_resolveFrom (resolve_eq_ok.1 found).2

/-! ### Trees with the same directories -/

/-- A path through directories is found in every tree that has them. -/
theorem resolveFrom_of_directories
    (kept : ∀ p, tree.node? p = some .directory → tree'.node? p = some .directory)
    (found : tree.resolveFrom place path = .ok target) :
    tree'.resolveFrom place path = .ok target := by
  induction path generalizing place with
  | nil => exact found
  | cons name path ih =>
    obtain ⟨stands, short, found⟩ := resolveFrom_cons_eq_ok.1 found
    exact resolveFrom_cons_eq_ok.2 ⟨kept place stands, short, ih found⟩

/-- A path goes on to lead to its place as long as no directory is lost. -/
theorem resolve_of_directories
    (kept : ∀ p, tree.node? p = some .directory → tree'.node? p = some .directory)
    (found : tree.resolve path = .ok target) : tree'.resolve path = .ok target := by
  rw [resolve_eq_ok] at found ⊢
  exact ⟨found.1, resolveFrom_of_directories kept found.2⟩

/-- What is there in one tree is there in the other. -/
def Extends (tree tree' : FileTree) : Prop :=
  ∀ path node, tree.node? path = some node → tree'.node? path = some node

theorem Extends.refl (tree : FileTree) : Extends tree tree := fun _ _ h => h

theorem Extends.trans {tree'' : FileTree} (h : Extends tree tree') (h' : Extends tree' tree'') :
    Extends tree tree'' := fun path node there => h' path node (h path node there)

/-- What is found in a larger tree is found in the smaller one, unless something is missing
there. -/
theorem Extends.resolveFrom_eq (h : Extends tree tree')
    (found : tree'.resolveFrom place path = .ok target) :
    tree.resolveFrom place path = .ok target ∨ tree.resolveFrom place path = .error .notFound := by
  induction path generalizing place with
  | nil => exact .inl found
  | cons name path ih =>
    obtain ⟨stands', short, found⟩ := resolveFrom_cons_eq_ok.1 found
    cases stands : tree.node? place with
    | none =>
      rw [resolveFrom, stands]
      exact .inr rfl
    | some node =>
      obtain rfl := Option.some.inj ((h place node stands).symm.trans stands')
      rw [resolveFrom, stands]
      dsimp only
      rw [if_neg (Nat.not_lt.2 short)]
      exact ih found

/-! ### Making directories -/

theorem isDirectory_iff : tree.isDirectory path = true ↔
    ∃ place, tree.resolve path = .ok place ∧ tree.node? place = some .directory := by
  rw [isDirectory]
  cases tree.resolve path with
  | error => simp
  | ok place => simp

/-- Something new keeps what is there. -/
theorem extends_put (free : tree.node? place = none) (node : Node) :
    Extends tree (tree.put place node) := by
  intro other there stands
  have inside : place ≠ [] := by
    rintro rfl
    simp [node?] at free
  have different : place ≠ other := by
    rintro rfl
    rw [free] at stands
    cases stands
  rw [node?_put tree node other inside, if_neg different, stands]

/-- A directory is made where nothing was. -/
theorem of_makeDirectory_eq_ok (made : tree.makeDirectory path = .ok tree') : ∃ place,
    tree.resolve path = .ok place ∧ tree.node? place = none ∧ place ≠ [] ∧
      tree' = tree.put place .directory := by
  rw [makeDirectory] at made
  cases found : tree.resolve path with
  | error cause => simp [found, bind, Except.bind] at made
  | ok place =>
    simp only [found, bind, Except.bind] at made
    split at made
    · cases made
    · next free =>
      rw [Bool.not_eq_true, Option.isSome_eq_false_iff, Option.isNone_iff_eq_none] at free
      refine ⟨place, rfl, free, ?_, (Except.ok.inj made).symm⟩
      rintro rfl
      simp [node?] at free

/-- A directory that is made is there, and so is all that was there before. -/
theorem makeDirectory_eq_ok (made : tree.makeDirectory path = .ok tree') :
    tree'.isDirectory path = true ∧ Extends tree tree' := by
  obtain ⟨place, found, free, inside, rfl⟩ := of_makeDirectory_eq_ok made
  have grown := extends_put free .directory
  refine ⟨isDirectory_iff.2 ⟨place, ?_, ?_⟩, grown⟩
  · exact resolve_of_directories (fun p => grown p .directory) found
  · rw [node?_put tree _ _ inside, if_pos rfl]

/-- A directory that was made sure of is there, and everything else is as it was. -/
theorem ensureDirectory_eq_ok (made : tree.ensureDirectory path = (.ok (), tree')) :
    tree'.isDirectory path = true ∧ Extends tree tree' := by
  rw [ensureDirectory] at made
  split at made
  · next new =>
    obtain ⟨-, rfl⟩ := Prod.mk.inj made
    exact makeDirectory_eq_ok new
  · obtain ⟨there, rfl⟩ := Prod.mk.inj made
    split at there
    · next stands => exact ⟨stands, .refl _⟩
    · cases there

/-- Once directories are made, the last of them is there, and so is all that was there before. -/
theorem makeDirectories_eq_ok (made : tree.makeDirectories path = (.ok (), tree')) :
    tree'.isDirectory path = true ∧ Extends tree tree' := by
  induction path using makeDirectories.induct tree generalizing tree' with
  | case1 =>
    rw [makeDirectories, if_pos rfl] at made
    obtain ⟨-, rfl⟩ := Prod.mk.inj made
    exact ⟨rfl, .refl _⟩
  | case2 path inside missing between above ih =>
    rw [makeDirectories, if_neg inside, missing] at made
    simp only [above] at made
    obtain ⟨-, kept⟩ := ih above
    obtain ⟨there, grown⟩ := ensureDirectory_eq_ok made
    exact ⟨there, kept.trans grown⟩
  | case3 path inside missing cause between above ih =>
    rw [makeDirectories, if_neg inside, missing] at made
    simp only [above] at made
    cases made
  | case4 path inside present =>
    rw [makeDirectories, if_neg inside] at made
    split at made
    · next missing => exact (present missing).elim
    · exact ensureDirectory_eq_ok made

/-- A directory that is there is not made. -/
theorem makeDirectories_of_isDirectory (h : tree.isDirectory path = true) :
    tree.makeDirectories path = (.ok (), tree) := by
  obtain ⟨place, found, stands⟩ := isDirectory_iff.1 h
  have taken : tree.makeDirectory path = .error .nameTaken := by
    simp [makeDirectory, found, stands, bind, Except.bind]
  rw [makeDirectories]
  split
  · rfl
  · rw [taken, ensureDirectory, taken]
    simp [h]

/-! ### Changes in a directory -/

/-- To put a file at a place changes that place only. -/
theorem node?_put_append (tree : FileTree) (place : Path) (name : String) (node : Node)
    (other : Path) : (tree.put (place ++ [name]) node).node? other =
      if place ++ [name] = other then some node else tree.node? other :=
  node?_put tree node other (by simp)

/-- To drop a file from a place changes that place only. -/
theorem node?_drop_append (tree : FileTree) (place : Path) (name : String) (other : Path) :
    (tree.drop (place ++ [name])).node? other =
      if place ++ [name] = other then none else tree.node? other :=
  node?_drop tree other (by simp)

/-! ### Files at a place -/

section Files

variable {file : File} {content : List UInt8}

theorem fileAt_eq_ok : tree.fileAt place = .ok file ↔ tree.node? place = some (.file file) := by
  rw [fileAt]
  cases tree.node? place with
  | none => simp
  | some node => cases node <;> simp

/-- A file that may be written has other content then, and nothing else about it changes. -/
theorem written_eq_ok : tree.written place content = .ok file ↔
    (tree.node? place = none ∧ file = { content }) ∨
      ∃ old, tree.node? place = some (.file old) ∧ old.writable = true ∧
        file = { old with content } := by
  rw [written]
  cases tree.node? place with
  | none =>
    constructor
    · exact fun same => .inl ⟨rfl, (Except.ok.inj same).symm⟩
    · rintro (⟨-, rfl⟩ | ⟨old, there, -⟩)
      · rfl
      · cases there
  | some node =>
    cases node with
    | directory => simp
    | file old =>
      simp only [File.write]
      constructor
      · intro same
        split at same
        · next writable => exact .inr ⟨old, rfl, writable, (Except.ok.inj same).symm⟩
        · cases same
      · rintro (⟨free, -⟩ | ⟨old', there, writable, rfl⟩)
        · cases free
        · cases there
          exact if_pos writable

/-- What is read from a file is its content. -/
theorem File.content_of_read (h : file.read = .ok content) : file.content = content := by
  rw [File.read] at h
  split at h
  · exact Except.ok.inj h
  · cases h

theorem File.read_of_readable (h : file.readable = true) : file.read = .ok file.content := if_pos h

/-- A file that was written holds what was written to it. -/
theorem content_of_written (h : tree.written place content = .ok file) :
    file.content = content := by
  rcases written_eq_ok.1 h with ⟨-, rfl⟩ | ⟨old, -, -, rfl⟩
  · rfl
  · rfl

/-- A directory is never written to. -/
theorem not_directory_of_written (h : tree.written place content = .ok file) :
    tree.node? place ≠ some .directory := by
  rcases written_eq_ok.1 h with ⟨free, -⟩ | ⟨old, there, -, -⟩
  · simp [free]
  · simp [there]

/-- Nothing stands at the place, or a file that may be read and written. -/
def IsOpen (tree : FileTree) (place : Path) : Prop :=
  ∀ node, tree.node? place = some node → ∃ bytes : List UInt8, node = .file bytes

/-- A place where nothing stands is open: a file made there has no restrictions. -/
theorem isOpen_of_none (free : tree.node? place = none) : tree.IsOpen place := by
  intro node there
  cases free.symm.trans there

theorem isOpen_of_bytes {bytes : List UInt8} (there : tree.node? place = some (.file bytes)) :
    tree.IsOpen place :=
  fun _ there' => ⟨bytes, Option.some.inj (there'.symm.trans there)⟩

theorem IsOpen.congr (h : tree.IsOpen place) (same : tree'.node? place = tree.node? place) :
    tree'.IsOpen place :=
  fun node there => h node (same ▸ there)

theorem IsOpen.not_directory (h : tree.IsOpen place) : tree.node? place ≠ some .directory := by
  intro stands
  obtain ⟨bytes, same⟩ := h _ stands
  cases same

/-- An open place can be written to, and what stands there afterwards can be read. -/
theorem IsOpen.written (h : tree.IsOpen place) (content : List UInt8) :
    tree.written place content = .ok { content } := by
  refine written_eq_ok.2 ?_
  cases there : tree.node? place with
  | none => exact .inl ⟨rfl, rfl⟩
  | some node =>
    obtain ⟨bytes, rfl⟩ := h node there
    exact .inr ⟨_, rfl, rfl, rfl⟩

end Files

/-! ### Operations at a place -/

section Operations

variable {file : File} {content : List UInt8} {source : Path}

theorem read_of_resolve (found : tree.resolve path = .ok place) :
    tree.read path = (tree.fileAt place).bind File.read := by
  rw [read, found]
  rfl

/-- A path is read if it leads to a file that permits it. -/
theorem read_eq_ok : tree.read path = .ok content ↔ ∃ place file,
    tree.resolve path = .ok place ∧ tree.node? place = some (.file file) ∧
      file.read = .ok content := by
  cases found : tree.resolve path with
  | error cause => simp [read, found, bind, Except.bind]
  | ok place =>
    rw [read_of_resolve found]
    constructor
    · intro reads
      cases there : tree.fileAt place with
      | error cause =>
        rw [there] at reads
        cases reads
      | ok file =>
        rw [there] at reads
        exact ⟨place, file, rfl, fileAt_eq_ok.1 there, reads⟩
    · rintro ⟨place', file, same, there, reads⟩
      obtain rfl := Except.ok.inj same
      rw [fileAt_eq_ok.2 there]
      exact reads

theorem write_of_written (found : tree.resolve path = .ok place)
    (written : tree.written place content = .ok file) :
    tree.write path content = .ok (tree.put place (.file file)) := by
  rw [write, found]
  simp only [bind, Except.bind, written]

/-- A file is written at the place that its path leads to. -/
theorem write_eq_ok : tree.write path content = .ok tree' ↔ ∃ place file,
    tree.resolve path = .ok place ∧ tree.written place content = .ok file ∧
      tree' = tree.put place (.file file) := by
  constructor
  · intro writes
    rw [write] at writes
    cases found : tree.resolve path with
    | error cause => simp [found, bind, Except.bind] at writes
    | ok place =>
      cases written : tree.written place content with
      | error cause => simp [found, written, bind, Except.bind] at writes
      | ok file =>
        simp only [found, written, bind, Except.bind] at writes
        exact ⟨place, file, rfl, written, (Except.ok.inj writes).symm⟩
  · rintro ⟨place, file, found, written, rfl⟩
    exact write_of_written found written

/-- What is appended follows what the file held. -/
theorem append_of_resolve {held : List UInt8} (found : tree.resolve path = .ok place)
    (holds : tree.node? place = some (.file held)) (content : List UInt8) :
    tree.append path content = .ok (tree.put place (.file (held ++ content))) := by
  rw [append, found]
  simp only [bind, Except.bind, fileAt_eq_ok.2 holds]
  rfl

/-- A file that is written at its end stays where it is. -/
theorem of_append_eq_ok (appended : tree.append path content = .ok tree') : ∃ place old file,
    tree.resolve path = .ok place ∧ tree.node? place = some (.file old) ∧
      tree' = tree.put place (.file file) := by
  rw [append] at appended
  cases found : tree.resolve path with
  | error cause => simp [found, bind, Except.bind] at appended
  | ok place =>
    cases there : tree.fileAt place with
    | error cause => simp [found, there, bind, Except.bind] at appended
    | ok old =>
      cases written : old.write (old.content ++ content) with
      | error cause => simp [found, there, written, bind, Except.bind] at appended
      | ok file =>
        simp only [found, there, written, bind, Except.bind] at appended
        exact ⟨place, old, file, rfl, fileAt_eq_ok.1 there, (Except.ok.inj appended).symm⟩

theorem remove_of_resolve (found : tree.resolve path = .ok place) :
    tree.remove path = (tree.fileAt place).map fun _ => tree.drop place := by
  rw [remove, found]
  rfl

/-- What was removed was a file, and only its place is dropped. -/
theorem of_remove_eq_ok (removed : tree.remove path = .ok tree') : ∃ place file,
    tree.resolve path = .ok place ∧ tree.node? place = some (.file file) ∧
      tree' = tree.drop place := by
  cases found : tree.resolve path with
  | error cause => simp [remove, found, bind, Except.bind] at removed
  | ok place =>
    rw [remove_of_resolve found] at removed
    cases there : tree.fileAt place with
    | error cause =>
      rw [there] at removed
      cases removed
    | ok file =>
      rw [there] at removed
      exact ⟨place, file, rfl, fileAt_eq_ok.1 there, (Except.ok.inj removed).symm⟩

/-- A renamed file takes the place of what the target held and leaves its own place empty. -/
theorem rename_of_resolve (found : tree.resolve source = .ok place)
    (holds : tree.node? place = some (.file file)) (found' : tree.resolve path = .ok target)
    (free : tree.node? target ≠ some .directory) :
    tree.rename source path = .ok ((tree.put target (.file file)).drop place) := by
  rw [rename, found]
  simp only [bind, Except.bind, fileAt_eq_ok.2 holds, found', if_neg free]

/-- A file is moved as it is. -/
theorem of_rename_eq_ok (renamed : tree.rename source path = .ok tree') : ∃ place file target,
    tree.resolve source = .ok place ∧ tree.node? place = some (.file file) ∧
      tree.resolve path = .ok target ∧ tree.node? target ≠ some .directory ∧
        tree' = (tree.put target (.file file)).drop place := by
  rw [rename] at renamed
  cases found : tree.resolve source with
  | error cause => simp [found, bind, Except.bind] at renamed
  | ok place =>
    cases there : tree.fileAt place with
    | error cause => simp [found, there, bind, Except.bind] at renamed
    | ok file =>
      cases found' : tree.resolve path with
      | error cause => simp [found, there, found', bind, Except.bind] at renamed
      | ok target =>
        simp only [found, there, found', bind, Except.bind] at renamed
        split at renamed
        · cases renamed
        · next free =>
          exact ⟨place, file, target, rfl, fileAt_eq_ok.1 there, rfl, free,
            (Except.ok.inj renamed).symm⟩

end Operations

end FileTree

end Subscription
