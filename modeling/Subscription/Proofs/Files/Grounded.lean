import Mathlib.Data.List.Induction
import Subscription.Proofs.Files.Lookup

/-!
# What stays when files come and go

In a tree of files everything stands in a directory (`FileTree.Grounded`). Where a tree has got
further directories and other files, a file of some name is found where it was found before
(`Spares.read_of_read`). The converse needs care: a path may go down through a directory that was
made only now, and up again to a file that was there all the time. A path that goes up only from
directories that were there before does not do so (`FileTree.Surefooted`), and along it the same
files are found (`Spares.read_iff`).
-/

namespace Subscription

namespace FileTree

variable {tree tree' tree'' made : FileTree} {place start path dir : Path} {name : String}
  {content : List UInt8}

/-! ### Trees in which everything stands in a directory -/

/-- Everything stands in a directory. -/
def Grounded (tree : FileTree) : Prop :=
  ∀ parent name, tree.node? (parent ++ [name]) ≠ none → tree.node? parent = some .directory

/-- Whatever may be put at the place would stand in a directory. -/
def InDirectory (tree : FileTree) (place : Path) : Prop :=
  ∀ parent name, place = parent ++ [name] → tree.node? parent = some .directory

theorem mem_of_held? {node : Node} (h : tree.held? place = some node) : (place, node) ∈ tree := by
  induction tree with
  | nil => cases h
  | cons entry rest ih =>
    obtain ⟨listed, there⟩ := entry
    rw [held?] at h
    split at h
    · next same =>
      obtain rfl := Option.some.inj h
      exact same ▸ List.mem_cons_self
    · exact List.mem_cons_of_mem _ (ih h)

/-- A place that is listed in a tree holds something. -/
theorem held?_ne_none_of_mem {node : Node} (h : (place, node) ∈ tree) :
    tree.held? place ≠ none := by
  induction tree with
  | nil => cases h
  | cons entry rest ih =>
    obtain ⟨listed, there⟩ := entry
    rw [held?]
    split
    · exact Option.some_ne_none _
    · next other =>
      rcases List.mem_cons.1 h with same | later
      · exact (other (congrArg Prod.fst same).symm).elim
      · exact ih later

/-- It is enough to look at what is listed. -/
theorem grounded_iff : tree.Grounded ↔
    ∀ entry ∈ tree, tree.node? entry.1.dropLast = some .directory := by
  constructor
  · rintro grounded ⟨listed, node⟩ mem
    by_cases top : listed = []
    · rw [top]
      rfl
    · refine grounded _ (listed.getLast top) ?_
      rw [List.dropLast_concat_getLast top, node?, if_neg top]
      exact held?_ne_none_of_mem mem
  · intro listed parent name there
    rw [node?, if_neg (by simp)] at there
    obtain ⟨node, held⟩ := Option.ne_none_iff_exists'.1 there
    have above := listed _ (mem_of_held? held)
    rwa [List.dropLast_concat] at above

instance : Decidable tree.Grounded := decidable_of_iff _ grounded_iff.symm

namespace Grounded

/-- What is above something is a directory. -/
theorem above (h : tree.Grounded) {rest : Path} (there : tree.node? (place ++ rest) ≠ none)
    (below : rest ≠ []) : tree.node? place = some .directory := by
  induction rest using List.reverseRecOn with
  | nil => exact (below rfl).elim
  | append_singleton rest name ih =>
    rw [← List.append_assoc] at there
    have stands := h _ _ there
    by_cases last : rest = []
    · rwa [last, List.append_nil] at stands
    · exact ih (by simp [stands]) last

/-- After a change at one place, everything still stands in a directory if what was put there does
and no directory was taken away. -/
theorem change (h : tree.Grounded) (others : ∀ p, place ≠ p → tree'.node? p = tree.node? p)
    (inside : tree'.node? place ≠ none → tree.InDirectory place)
    (kept : tree.node? place = some .directory → tree'.node? place = some .directory) :
    tree'.Grounded := by
  intro parent name there
  have stood : tree.node? parent = some .directory := by
    by_cases here : place = parent ++ [name]
    · exact inside (here ▸ there) parent name here
    · exact h parent name (others _ here ▸ there)
  by_cases same : place = parent
  · exact same ▸ kept (same ▸ stood)
  · rw [others parent same, stood]

/-- A path leads to a place in a directory. -/
theorem inDirectory_of_resolveFrom (h : tree.Grounded) (inside : tree.InDirectory start)
    (found : tree.resolveFrom start path = .ok place) : tree.InDirectory place := by
  induction path generalizing start with
  | nil => exact Except.ok.inj found ▸ inside
  | cons name path ih =>
    obtain ⟨stands, -, found⟩ := resolveFrom_cons_eq_ok.1 found
    refine ih ?_ found
    rw [step]
    split
    · exact inside
    · split
      · -- One step up from a directory, which itself stands in one.
        intro parent last same
        have below : start ≠ [] := by
          rintro rfl
          simp at same
        obtain ⟨first, whole⟩ : ∃ first, start = parent ++ [last, first] := by
          have joined := List.dropLast_concat_getLast below
          rw [same, List.append_assoc] at joined
          exact ⟨_, joined.symm⟩
        exact h.above (whole ▸ stands ▸ Option.some_ne_none _) (List.cons_ne_nil _ _)
      · intro parent last same
        obtain ⟨rfl, -⟩ := List.append_inj' same rfl
        exact stands

/-- In a grounded tree each place a path leads to lies in a directory. -/
theorem inDirectory_of_resolve (h : tree.Grounded) (found : tree.resolve path = .ok place) :
    tree.InDirectory place :=
  h.inDirectory_of_resolveFrom (fun _ _ same => by simp at same) (resolve_eq_ok.1 found).2

end Grounded

/-! ### Paths that go up -/

/-- Wherever the path goes up, it does so from a directory that is there. -/
def Surefooted (tree : FileTree) (path : Path) : Prop :=
  ∀ front rest, path = front ++ ".." :: rest → tree.isDirectory front = true

/-- A path that never steps up is surefooted in every tree. -/
theorem surefooted_of_not_mem (h : ".." ∉ path) : tree.Surefooted path := by
  intro front rest same
  exact (h (same ▸ List.mem_append_right _ List.mem_cons_self)).elim

/-- Every path to a directory that is there is one. -/
theorem surefooted_of_isDirectory (h : tree.isDirectory path = true) : tree.Surefooted path := by
  rintro front rest rfl
  obtain ⟨place, found, -⟩ := isDirectory_iff.1 h
  obtain ⟨short, found⟩ := resolve_eq_ok.1 found
  rw [resolveFrom_append] at found
  cases middle : tree.resolveFrom [] front with
  | error cause =>
    rw [middle] at found
    cases found
  | ok between =>
    rw [middle] at found
    obtain ⟨stands, -⟩ := resolveFrom_cons_eq_ok.1 found
    refine isDirectory_iff.2 ⟨between, resolve_eq_ok.2 ⟨?_, middle⟩, stands⟩
    exact Nat.le_trans (pathLength_le_append ..) short

namespace Surefooted

/-- To go on without going up changes nothing about it. -/
theorem append (h : tree.Surefooted path) {rest : Path} (down : ".." ∉ rest) :
    tree.Surefooted (path ++ rest) := by
  intro front behind same
  rcases List.append_eq_append_iff.1 same with ⟨between, rfl, later⟩ | ⟨between, rfl, earlier⟩
  · exact (down (later ▸ List.mem_append_right _ List.mem_cons_self)).elim
  · cases between with
    | nil =>
      have inside : ".." ∈ [] ++ rest := earlier ▸ List.mem_cons_self
      exact (down inside).elim
    | cons name between =>
      obtain ⟨rfl, -⟩ := List.cons.inj earlier
      exact h front between rfl

/-- The directories that it goes up from stay. -/
theorem mono (h : tree.Surefooted path)
    (kept : ∀ p, tree.node? p = some .directory → tree'.node? p = some .directory) :
    tree'.Surefooted path := by
  intro front rest same
  obtain ⟨place, found, stands⟩ := isDirectory_iff.1 (h front rest same)
  exact isDirectory_iff.2 ⟨place, resolve_of_directories kept found, kept place stands⟩

end Surefooted

/-- A path that does not go up leads downwards. -/
theorem prefix_of_resolveFrom (down : ".." ∉ path)
    (found : tree.resolveFrom start path = .ok place) : start <+: place := by
  induction path generalizing start with
  | nil => exact Except.ok.inj found ▸ List.prefix_refl start
  | cons name path ih =>
    obtain ⟨here, later⟩ := not_or.1 (List.mem_cons.not.1 down)
    obtain ⟨-, -, found⟩ := resolveFrom_cons_eq_ok.1 found
    refine List.IsPrefix.trans ?_ (ih later found)
    rw [step]
    split
    · exact List.prefix_refl start
    · rw [if_neg (Ne.symm here)]
      exact List.prefix_append start [name]

/-- A directory that was there is found in a larger tree only by paths that led to it before, if
these go up only from directories that were there. -/
theorem Grounded.resolveFrom_eq_ok (h : tree.Grounded) (stands : tree.node? place = some .directory)
    (sure : ∀ front rest, path = front ++ ".." :: rest → ∃ middle,
      tree.resolveFrom start front = .ok middle ∧ tree.node? middle = some .directory)
    (found : tree'.resolveFrom start path = .ok place) :
    tree.resolveFrom start path = .ok place := by
  induction path generalizing start with
  | nil => exact found
  | cons name path ih =>
    have here : tree.node? start = some .directory := by
      by_cases up : ".." ∈ name :: path
      · obtain ⟨front, rest, same⟩ := List.append_of_mem up
        obtain ⟨middle, led, stood⟩ := sure front rest same
        cases front with
        | nil => exact Except.ok.inj led ▸ stood
        | cons first front => exact (resolveFrom_cons_eq_ok.1 led).1
      · obtain ⟨below, rfl⟩ := prefix_of_resolveFrom up found
        by_cases last : below = []
        · rwa [last, List.append_nil] at stands
        · exact h.above (stands ▸ Option.some_ne_none _) last
    obtain ⟨-, short, found⟩ := resolveFrom_cons_eq_ok.1 found
    refine resolveFrom_cons_eq_ok.2 ⟨here, short, ih (fun front rest same => ?_) found⟩
    obtain ⟨middle, led, stood⟩ := sure (name :: front) rest (congrArg _ same)
    exact ⟨middle, (resolveFrom_cons_eq_ok.1 led).2.2, stood⟩

/-- A surefooted path leads in one tree where it leads in another, if the place is a directory
there. -/
theorem Grounded.resolve_eq_ok (h : tree.Grounded) (stands : tree.node? place = some .directory)
    (sure : tree.Surefooted path) (found : tree'.resolve path = .ok place) :
    tree.resolve path = .ok place := by
  obtain ⟨short, found⟩ := FileTree.resolve_eq_ok.1 found
  have sureFrom (front rest : Path) (same : path = front ++ ".." :: rest) : ∃ middle,
      tree.resolveFrom [] front = .ok middle ∧ tree.node? middle = some .directory := by
    obtain ⟨middle, led, stood⟩ := isDirectory_iff.1 (sure front rest same)
    exact ⟨middle, (FileTree.resolve_eq_ok.1 led).2, stood⟩
  exact FileTree.resolve_eq_ok.2 ⟨short, h.resolveFrom_eq_ok stands sureFrom found⟩

/-! ### Names in directories -/

section Names

variable (plain : ∀ place, step place name = place ++ [name])

include plain

/-- A name is looked up in the directory that the path in front of it leads to. -/
theorem resolve_concat_eq_ok : tree.resolve (dir ++ [name]) = .ok place ↔ NameFits dir name ∧
    ∃ parent, tree.resolve dir = .ok parent ∧ tree.node? parent = some .directory ∧
      place = parent ++ [name] := by
  constructor
  · intro found
    obtain ⟨short, way⟩ := FileTree.resolve_eq_ok.1 found
    rw [resolveFrom_append] at way
    cases led : tree.resolveFrom [] dir with
    | error cause =>
      rw [led] at way
      cases way
    | ok parent =>
      rw [led] at way
      obtain ⟨stands, fits, there⟩ := resolveFrom_cons_eq_ok.1 way
      have shorter := Nat.le_trans (pathLength_le_append ..) short
      have same : place = parent ++ [name] := (Except.ok.inj there).symm.trans (plain parent)
      exact ⟨⟨short, fits⟩, parent, FileTree.resolve_eq_ok.2 ⟨shorter, led⟩, stands, same⟩
  · rintro ⟨fits, parent, led, stands, rfl⟩
    rw [resolve_append_singleton led stands (plain parent), if_pos fits]

/-- A file of this name is read in the directory that the path in front of it leads to. -/
theorem read_concat_eq_ok : tree.read (dir ++ [name]) = .ok content ↔ ∃ parent file,
    tree.resolve (dir ++ [name]) = .ok (parent ++ [name]) ∧
      tree.node? (parent ++ [name]) = some (.file file) ∧ file.read = .ok content := by
  rw [read_eq_ok]
  constructor
  · rintro ⟨place, file, found, held, reads⟩
    obtain ⟨-, parent, -, -, rfl⟩ := (resolve_concat_eq_ok plain).1 found
    exact ⟨parent, file, found, held, reads⟩
  · rintro ⟨parent, file, found, held, reads⟩
    exact ⟨parent ++ [name], file, found, held, reads⟩

/-- A file that was there is found under its name only by paths that led to it before, if these go
up only from directories that were there. -/
theorem Grounded.resolve_concat_eq_ok {parent : Path} (h : tree.Grounded)
    (sure : tree.Surefooted dir) (there : tree.node? (parent ++ [name]) ≠ none)
    (found : tree'.resolve (dir ++ [name]) = .ok (parent ++ [name])) :
    tree.resolve (dir ++ [name]) = .ok (parent ++ [name]) := by
  obtain ⟨fits, parent', led, -, same⟩ := (FileTree.resolve_concat_eq_ok plain).1 found
  obtain ⟨rfl, -⟩ := List.append_inj' same rfl
  have stands := h parent name there
  exact (FileTree.resolve_concat_eq_ok plain).2
    ⟨fits, parent, h.resolve_eq_ok stands sure led, stands, rfl⟩

end Names

/-! ### Further directories -/

/-- Nothing but directories were made. -/
structure AddsDirectories (tree made : FileTree) : Prop where
  grounded : tree.Grounded → made.Grounded
  places : ∀ place, made.node? place = tree.node? place ∨
    (tree.node? place = none ∧ made.node? place = some .directory)

namespace AddsDirectories

theorem refl (tree : FileTree) : AddsDirectories tree tree := ⟨id, fun _ => .inl rfl⟩

theorem trans (h : AddsDirectories tree tree') (h' : AddsDirectories tree' tree'') :
    AddsDirectories tree tree'' := by
  refine ⟨fun grounded => h'.grounded (h.grounded grounded), fun place => ?_⟩
  rcases h'.places place with same | ⟨free, made⟩
  · rw [same]
    exact h.places place
  · rcases h.places place with same | ⟨-, there⟩
    · exact .inr ⟨same ▸ free, made⟩
    · cases free.symm.trans there

/-- A directory that is made is a new one; nothing else changes. -/
theorem of_makeDirectory (h : tree.makeDirectory path = .ok made) : AddsDirectories tree made := by
  obtain ⟨place, found, free, inside, rfl⟩ := of_makeDirectory_eq_ok h
  have put (other : Path) := node?_put tree .directory other inside
  have others (p : Path) (different : place ≠ p) :
      (tree.put place .directory).node? p = tree.node? p := by
    rw [put p, if_neg different]
  refine ⟨fun grounded => grounded.change others (fun _ => ?_) fun _ => ?_, fun other => ?_⟩
  · exact grounded.inDirectory_of_resolve found
  · rw [put place, if_pos rfl]
  · rw [put other]
    split
    · next same => exact .inr ⟨same ▸ free, rfl⟩
    · exact .inl rfl

theorem ensureDirectory (tree : FileTree) (path : Path) :
    AddsDirectories tree (tree.ensureDirectory path).2 := by
  rw [FileTree.ensureDirectory]
  split
  · next made => exact of_makeDirectory made
  · exact refl tree

/-- Whatever becomes of making directories, nothing else is made. -/
theorem makeDirectories (tree : FileTree) (path : Path) :
    AddsDirectories tree (tree.makeDirectories path).2 := by
  induction path using makeDirectories.induct tree with
  | case1 =>
    rw [FileTree.makeDirectories, if_pos rfl]
    exact refl tree
  | case2 path inside missing between above ih =>
    rw [FileTree.makeDirectories, if_neg inside, missing]
    simp only [above] at ih ⊢
    exact ih.trans (ensureDirectory between path)
  | case3 path inside missing cause between above ih =>
    rw [FileTree.makeDirectories, if_neg inside, missing]
    simp only [above] at ih ⊢
    exact ih
  | case4 path inside present =>
    rw [FileTree.makeDirectories, if_neg inside]
    split
    · next missing => exact (present missing).elim
    · exact ensureDirectory tree path

end AddsDirectories

/-! ### Files of one name -/

/-- Directories stay, and the files of this name are the same. -/
structure Spares (name : String) (tree tree' : FileTree) : Prop where
  grounded : tree.Grounded → tree'.Grounded
  directories : ∀ place, tree.node? place = some .directory → tree'.node? place = some .directory
  files : ∀ parent file, tree'.node? (parent ++ [name]) = some (.file file) ↔
    tree.node? (parent ++ [name]) = some (.file file)

/-- To add directories touches no file, whatever its name. -/
theorem AddsDirectories.spares (h : AddsDirectories tree made) (name : String) :
    Spares name tree made where
  grounded := h.grounded
  directories place there := by
    rcases h.places place with same | ⟨free, -⟩
    · rw [same, there]
    · cases free.symm.trans there
  files parent file := by
    rcases h.places (parent ++ [name]) with same | ⟨free, there⟩
    · rw [same]
    · simp [free, there]

namespace Spares

theorem refl (name : String) (tree : FileTree) : Spares name tree tree :=
  ⟨id, fun _ => id, fun _ _ => .rfl⟩

theorem trans (h : Spares name tree tree') (h' : Spares name tree' tree'') :
    Spares name tree tree'' where
  grounded := h'.grounded ∘ h.grounded
  directories place := h'.directories place ∘ h.directories place
  files parent file := (h'.files parent file).trans (h.files parent file)

variable {parent : Path} {other : String}

/-- A change of a file of another name. -/
theorem change (different : other ≠ name) (file : tree.node? (parent ++ [other]) ≠ some .directory)
    (inside : tree'.node? (parent ++ [other]) ≠ none → tree.Grounded →
      tree.InDirectory (parent ++ [other]))
    (others : ∀ p, parent ++ [other] ≠ p → tree'.node? p = tree.node? p) :
    Spares name tree tree' where
  grounded grounded := grounded.change others (fun there => inside there grounded) fun there =>
    (file there).elim
  directories place there := by
    rw [others place ?_, there]
    rintro rfl
    exact file there
  files parent' file := by
    rw [others (parent' ++ [name]) ?_]
    intro same
    exact different (List.singleton_inj.1 (List.append_inj' same rfl).2)

/-- A file of another name is taken away. -/
theorem drop (different : other ≠ name) (file : tree.node? (parent ++ [other]) ≠ some .directory) :
    Spares name tree (tree.drop (parent ++ [other])) := by
  refine change different file (fun there => ?_) fun p elsewhere => ?_
  · rw [node?_drop_append, if_pos rfl] at there
    exact (there rfl).elim
  · rw [node?_drop_append, if_neg elsewhere]

section Operations

variable (plain : ∀ place, step place other = place ++ [other]) (different : other ≠ name)

include plain different

/-- A file of another name is put where its path leads. -/
theorem put (found : tree.resolve (dir ++ [other]) = .ok place)
    (free : tree.node? place ≠ some .directory) (file : File) :
    Spares name tree (tree.put place (.file file)) := by
  obtain ⟨-, parent, -, -, rfl⟩ := (resolve_concat_eq_ok plain).1 found
  refine change different free (fun _ grounded => ?_) fun p elsewhere => ?_
  · exact grounded.inDirectory_of_resolve found
  · rw [node?_put_append, if_neg elsewhere]

/-- A write to a file of another name spares the files of this name. -/
theorem write (h : tree.write (dir ++ [other]) content = .ok tree') : Spares name tree tree' := by
  obtain ⟨place, file, found, written, rfl⟩ := write_eq_ok.1 h
  exact put plain different found (not_directory_of_written written) file

theorem append (h : tree.append (dir ++ [other]) content = .ok tree') : Spares name tree tree' := by
  obtain ⟨place, old, file, found, there, rfl⟩ := of_append_eq_ok h
  exact put plain different found (by simp [there]) file

theorem remove (h : tree.remove (dir ++ [other]) = .ok tree') : Spares name tree tree' := by
  obtain ⟨place, file, found, there, rfl⟩ := of_remove_eq_ok h
  obtain ⟨-, parent, -, -, rfl⟩ := (resolve_concat_eq_ok plain).1 found
  exact drop different (by simp [there])

/-- A renaming between two other names spares the files of this name. -/
theorem rename {other' : String} (plain' : ∀ place, step place other' = place ++ [other'])
    (different' : other' ≠ name) (h : tree.rename (dir ++ [other]) (dir ++ [other']) = .ok tree') :
    Spares name tree tree' := by
  obtain ⟨place, file, target, found, holds, found', free, rfl⟩ := of_rename_eq_ok h
  have first := put plain' different' found' free file
  obtain ⟨-, parent, -, -, rfl⟩ := (resolve_concat_eq_ok plain).1 found
  obtain ⟨-, parent', -, -, rfl⟩ := (resolve_concat_eq_ok plain').1 found'
  refine first.trans (drop different ?_)
  -- Whatever the file was put in the place of, no directory stands where it was.
  rw [node?_put_append]
  split
  · simp
  · simp [holds]

end Operations

end Spares

section Reading

variable (plain : ∀ place, step place name = place ++ [name])

include plain

/-- A file of this name is still found where it was. -/
theorem Spares.read_of_read (h : Spares name tree tree')
    (reads : tree.read (dir ++ [name]) = .ok content) :
    tree'.read (dir ++ [name]) = .ok content := by
  obtain ⟨parent, file, found, holds, held⟩ := (read_concat_eq_ok plain).1 reads
  have still := resolve_of_directories h.directories found
  exact (read_concat_eq_ok plain).2 ⟨parent, file, still, (h.files parent file).2 holds, held⟩

/-- Along a path that goes up only from directories that are there, no other file of this name is
found later on. -/
theorem Spares.read_iff (h : Spares name tree tree') (grounded : tree.Grounded)
    (sure : tree.Surefooted dir) :
    tree'.read (dir ++ [name]) = .ok content ↔ tree.read (dir ++ [name]) = .ok content := by
  refine ⟨fun reads => ?_, h.read_of_read plain⟩
  obtain ⟨parent, file, found, holds, held⟩ := (read_concat_eq_ok plain).1 reads
  have stood := (h.files parent file).1 holds
  have there : tree.node? (parent ++ [name]) ≠ none := stood ▸ Option.some_ne_none _
  exact (read_concat_eq_ok plain).2
    ⟨parent, file, grounded.resolve_concat_eq_ok plain sure there found, stood, held⟩

end Reading

end FileTree

end Subscription
