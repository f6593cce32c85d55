import Subscription.Files.Error

/-!
# A tree of files

A `FileTree` holds directories and files under paths from the root; the root itself is a directory
that is always there. The operations follow the rules of a file system: a name can be looked up only
in a directory, a file does not take the place of a directory, no name is longer than
`FileTree.longestName` bytes, and no path longer than `FileTree.longestPath` bytes. A file may be
closed to reading, to writing, or to both; directories are open to everything.

The view of a tree is `FileTree.node?`; `node?_put` and `node?_drop` say what its two updates do.
-/

namespace Subscription

/-- The names that lead from the root to a place. -/
abbrev Path := List String

/-- A file, with what the user of the program may do with it. -/
structure File where
  content : List UInt8
  readable : Bool := true
  writable : Bool := true
  deriving DecidableEq, Repr

namespace File

/-- Bytes alone stand for a file that may be read and written. -/
instance : Coe (List UInt8) File := ⟨fun content => { content }⟩

/-- A file stands for what it holds. -/
instance : Coe File (List UInt8) := ⟨content⟩

/-- What is read from a file. -/
def read (file : File) : Except FileError (List UInt8) :=
  if file.readable then .ok file.content else .error .denied

/-- The file with other content. What may be done with it stays as it is. -/
def write (file : File) (content : List UInt8) : Except FileError File :=
  if file.writable then .ok { file with content } else .error .denied

end File

/-- What stands at a place. -/
inductive Node where
  | directory
  | file (file : File)
  deriving DecidableEq, Repr

/-- Directories and files by their paths. -/
abbrev FileTree := List (Path × Node)

namespace FileTree

/-! ### The view -/

/-- What is listed under a path. -/
def held? : FileTree → Path → Option Node
  | [], _ => none
  | (path, node) :: rest, sought => if path = sought then some node else held? rest sought

/-- What stands at a path. -/
def node? (tree : FileTree) (path : Path) : Option Node :=
  if path = [] then some .directory else tree.held? path

/-- Puts something at a path, in place of what is there. -/
def put (tree : FileTree) (path : Path) (node : Node) : FileTree :=
  (path, node) :: tree.filter fun entry => entry.1 ≠ path

/-- Takes away what stands at a path. -/
def drop (tree : FileTree) (path : Path) : FileTree := tree.filter fun entry => entry.1 ≠ path

theorem held?_drop (tree : FileTree) (path other : Path) :
    (tree.drop path).held? other = if path = other then none else tree.held? other := by
  induction tree with
  | nil => simp [drop, held?]
  | cons entry rest ih =>
    obtain ⟨p, node⟩ := entry
    by_cases same : p = path
    · have dropped : drop ((p, node) :: rest) path = drop rest path := by simp [drop, same]
      rw [dropped, ih]
      by_cases h : path = other <;> simp_all [held?]
    · have kept : drop ((p, node) :: rest) path = (p, node) :: drop rest path := by
        simp [drop, same]
      rw [kept]
      by_cases h : p = other
      · subst h
        simp [held?, Ne.symm same]
      · simp [held?, h, ih]

/-- After a put, the node stands at its path and every other place is as before. -/
theorem node?_put (tree : FileTree) {path : Path} (node : Node) (other : Path) (h : path ≠ []) :
    (tree.put path node).node? other = if path = other then some node else tree.node? other := by
  have rest := held?_drop tree path other
  simp only [drop] at rest
  by_cases root : other = []
  · subst root
    simp [node?, h]
  · by_cases same : path = other <;> simp_all [node?, put, held?]

/-- After a drop, nothing stands at the path and every other place is as before. -/
theorem node?_drop (tree : FileTree) {path : Path} (other : Path) (h : path ≠ []) :
    (tree.drop path).node? other = if path = other then none else tree.node? other := by
  by_cases root : other = []
  · subst root
    simp [node?, h]
  · simp [node?, root, held?_drop]

/-! ### Looking a path up -/

/-- The length of the longest name, in bytes. -/
def longestName : Nat := 255

/-- The length of the longest path, in bytes. -/
def longestPath : Nat := 4095

/-- The length of a path, in bytes: its names with slashes between them. -/
def pathLength (path : Path) : Nat :=
  path.foldr (fun name length => name.utf8ByteSize + 1 + length) 0 - 1

/-- Whether a name leads nowhere: one that is empty, or is a point. -/
def isIdle (name : String) : Bool := name = "" || name = "."

/-- The place in a directory that a name leads to: the directory above for two points. -/
def step (path : Path) (name : String) : Path :=
  if isIdle name then path else if name = ".." then path.dropLast else path ++ [name]

/-- The place that a path leads to, where it leads anywhere. -/
def placeOf (path : Path) : Path := path.foldl step []

/-- The place that a path leads to from a place, if all directories on the way are there. Nothing
needs to stand at the place itself. -/
def resolveFrom (tree : FileTree) (place : Path) : Path → Except FileError Path
  | [] => .ok place
  | name :: rest =>
    match tree.node? place with
    | none => .error .notFound
    | some (.file _) => .error .notDirectory
    | some .directory =>
      if longestName < name.utf8ByteSize then .error .nameTooLong
      else resolveFrom tree (step place name) rest

/-- The place that a path leads to, looked up part by part. -/
def resolve (tree : FileTree) (path : Path) : Except FileError Path :=
  if longestPath < pathLength path then .error .nameTooLong else tree.resolveFrom [] path

/-- Whether a directory stands at a path. -/
def isDirectory (tree : FileTree) (path : Path) : Bool :=
  match tree.resolve path with
  | .ok place => tree.node? place == some .directory
  | .error _ => false

/-! ### Operations -/

/-- The file that stands at a place. -/
def fileAt (tree : FileTree) (place : Path) : Except FileError File :=
  match tree.node? place with
  | none => .error .notFound
  | some .directory => .error .isDirectory
  | some (.file file) => .ok file

/-- The file that stands at a place after it was written. A new one may be read and written. -/
def written (tree : FileTree) (place : Path) (content : List UInt8) : Except FileError File :=
  match tree.node? place with
  | none => .ok content
  | some .directory => .error .isDirectory
  | some (.file file) => file.write content

/-- The content of the file at a path. -/
def read (tree : FileTree) (path : Path) : Except FileError (List UInt8) := do
  let place ← tree.resolve path
  let file ← tree.fileAt place
  file.read

/-- Writes a file, new or in place of what it held. -/
def write (tree : FileTree) (path : Path) (content : List UInt8) : Except FileError FileTree := do
  let place ← tree.resolve path
  let file ← tree.written place content
  .ok (tree.put place (.file file))

/-- Writes at the end of a file that is there. -/
def append (tree : FileTree) (path : Path) (content : List UInt8) : Except FileError FileTree := do
  let place ← tree.resolve path
  let file ← tree.fileAt place
  let file ← file.write (file.content ++ content)
  .ok (tree.put place (.file file))

/-- Takes a file away, whatever may be done with it. -/
def remove (tree : FileTree) (path : Path) : Except FileError FileTree := do
  let place ← tree.resolve path
  let _ ← tree.fileAt place
  .ok (tree.drop place)

/-- Moves a file as it is, to a new name or in place of another file. -/
def rename (tree : FileTree) (source target : Path) : Except FileError FileTree := do
  let source ← tree.resolve source
  let file ← tree.fileAt source
  let target ← tree.resolve target
  if tree.node? target = some .directory then .error .isDirectory
  else .ok ((tree.put target (.file file)).drop source)

/-! ### Making directories -/

/-- Makes a directory in a directory that is there. -/
def makeDirectory (tree : FileTree) (path : Path) : Except FileError FileTree := do
  let place ← tree.resolve path
  if (tree.node? place).isSome then .error .nameTaken else .ok (tree.put place .directory)

/-- Makes a directory, unless it is there already. -/
def ensureDirectory (tree : FileTree) (path : Path) : Except FileError Unit × FileTree :=
  match tree.makeDirectory path with
  | .ok tree => (.ok (), tree)
  | .error cause => (if tree.isDirectory path then .ok () else .error cause, tree)

/-- The path above a path. -/
def above (path : Path) : Path :=
  (((path.reverse.dropWhile isIdle).drop 1).dropWhile isIdle).reverse

theorem length_above_lt {path : Path} (h : path ≠ []) : (above path).length < path.length := by
  have outer := (List.dropWhile_suffix isIdle (l := path.reverse)).length_le
  have inner :=
    (List.dropWhile_suffix isIdle (l := (path.reverse.dropWhile isIdle).drop 1)).length_le
  have pos := List.length_pos_iff.2 h
  simp only [List.length_reverse, List.length_drop] at outer inner
  simp only [above, List.length_reverse]
  omega

/-- Makes a directory and those above it, where they are not there yet, and gives the tree with
those made before a failure. Those above are made only when one of them is missing. -/
def makeDirectories (tree : FileTree) (path : Path) : Except FileError Unit × FileTree :=
  if path = [] then (.ok (), tree)
  else
    match tree.makeDirectory path with
    | .error .notFound =>
      match makeDirectories tree (above path) with
      | (.ok (), tree) => tree.ensureDirectory path
      | (.error cause, tree) => (.error cause, tree)
    | _ => tree.ensureDirectory path
termination_by path.length
decreasing_by exact length_above_lt ‹_›

end FileTree

end Subscription
