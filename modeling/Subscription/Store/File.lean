import Subscription.Files.Tree
import Subscription.Json.Reader
import Subscription.Store.Basic

/-!
# A store of files

Each entry is a file of its own in one directory, with the value written over several lines. An
entry is written to a file beside it first, which then takes its place, so whoever reads sees the
old value or the new one. A key becomes part of a file name, and only keys that are safe there are
accepted: they name a visible file in the directory itself.
-/

namespace Subscription

namespace FileStore

/-! ### File names -/

/-- Whether a character may be part of a key. -/
def isKeyChar (c : Char) : Bool := c.isAlphanum || c == '-' || c == '_' || c == '.'

/-- Whether a key may name a file. -/
def isValidKey (key : String) : Bool :=
  !key.isEmpty && key.all isKeyChar && !key.startsWith "."

/-- The name of the file of an entry. -/
def fileName (key : String) : String := key ++ ".json"

/-- The name of the file that an entry is written to before it takes its place. -/
def temporaryName (key : String) : String := "." ++ fileName key ++ ".tmp"

/-- The name of the file of an entry, if the key is valid. -/
def fileName? (key : String) : Except StoreError String :=
  if isValidKey key then .ok (fileName key) else .error (.invalidKey key)

/-! ### Writing in steps -/

/-- A step in writing an entry. -/
inductive Step where
  /-- Makes the temporary file, empty. -/
  | create
  /-- Adds bytes to the temporary file. -/
  | append (bytes : List UInt8)
  /-- Puts the temporary file in the place of the entry. -/
  | rename
  deriving DecidableEq, Repr

/-- The steps in which a value is written. -/
def steps (value : Json) : List Step :=
  [.create, .append (Utf8.encode value.pretty), .append (Utf8.encode "\n"), .rename]

/-- Performs a step in writing the entry under a key. -/
def perform (dir : Path) (key : String) (tree : FileTree) : Step → Except FileError FileTree
  | .create => tree.write (dir ++ [temporaryName key]) []
  | .append bytes => tree.append (dir ++ [temporaryName key]) bytes
  | .rename => tree.rename (dir ++ [temporaryName key]) (dir ++ [fileName key])

/-- Performs steps up to the first failure. What was done before it stays done. -/
def performAll (dir : Path) (key : String) : List Step → FileTree → Except FileError Unit × FileTree
  | [], tree => (.ok (), tree)
  | step :: rest, tree =>
    match perform dir key tree step with
    | .ok tree => performAll dir key rest tree
    | .error cause => (.error cause, tree)

/-! ### Operations -/

/-- The entry under a key. -/
def read (dir : Path) (key : String) (tree : FileTree) : Except StoreError (Option Json) := do
  let name ← fileName? key
  match tree.read (dir ++ [name]) with
  | .error .notFound => .ok none
  | .error cause => .error (.file cause)
  | .ok bytes =>
    match Json.read bytes with
    | .ok value => .ok (some value)
    | .error fault => .error (.malformed fault)

/-- Puts a value under a key. -/
def write (dir : Path) (key : String) (value : Json) (tree : FileTree) :
    Except StoreError Unit × FileTree :=
  match fileName? key with
  | .error failure => (.error failure, tree)
  | .ok _ =>
    match tree.makeDirectories dir with
    | (.error cause, tree) => (.error (.file cause), tree)
    | (.ok (), tree) =>
      let (result, tree) := performAll dir key (steps value) tree
      (result.mapError .file, tree)

/-- Removes the entry under a key. -/
def delete (dir : Path) (key : String) (tree : FileTree) : Except StoreError Unit × FileTree :=
  match fileName? key with
  | .error failure => (.error failure, tree)
  | .ok name =>
    match tree.remove (dir ++ [name]) with
    | .ok tree => (.ok (), tree)
    | .error .notFound => (.ok (), tree)
    | .error cause => (.error (.file cause), tree)

end FileStore

/-- The store of files in a directory. -/
def Store.files (dir : Path) : Store FileTree where
  read key := Action.ofStep fun tree => (FileStore.read dir key tree, tree)
  write key value := Action.ofStep (FileStore.write dir key value)
  delete key := Action.ofStep (FileStore.delete dir key)

end Subscription
