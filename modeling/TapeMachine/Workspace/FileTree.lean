import Std.Data.ExtTreeMap
import TapeMachine.Error
import TapeMachine.Text.Lines
import TapeMachine.Workspace.Path
/-!
# File trees

Files and directories as a value: a node for each place, where a place is the list of names from the root.
The paths of operations are texts, resolved from the working directory: each component but the last must be
a directory that exists.

* `FileTree.locate` : the place that a path names, or why it names none;
* `FileTree.readText`, `FileTree.openForAppend`, `FileTree.append`, `FileTree.overwrite` : files;
* `FileTree.makeDirectory`, `makeDirectories`, `makePath` : directories;
* `FileTree.node?_set` : **changing a place changes no other one.**
-/

namespace TapeMachine

/-- What stands at a place: a file with its text, or a directory. -/
inductive Node where
  | file (text : String)
  | directory
  deriving DecidableEq, Repr

/-- The nodes of a file system by their places, and the place of the working directory. -/
structure FileTree where
  nodes : Std.ExtTreeMap (List String) Node
  work : List String

namespace FileTree

/-! ## 1. Places -/

/-- What stands at a place; the root is a directory. -/
def node? (tree : FileTree) (place : List String) : Option Node :=
  if place = [] then some .directory else tree.nodes[place]?

/-- Puts a node at a place. -/
def set (tree : FileTree) (place : List String) (node : Node) : FileTree :=
  { tree with nodes := tree.nodes.insert place node }

/-- **Changing a place changes no other one.** -/
theorem node?_set {tree : FileTree} {place other : List String} {node : Node} (h : place ≠ []) :
    (tree.set place node).node? other = if place = other then some node else tree.node? other := by
  unfold node? set
  by_cases hother : other = []
  · subst hother
    simp [h]
  · simp only [hother, if_false, Std.ExtTreeMap.getElem?_insert, Std.compare_eq_iff_eq]

/-- The longest name that a component may have, in bytes. -/
def nameLimit : Nat := 255

/-- The longest path that is resolved, in bytes. -/
def pathLimit : Nat := 4095

/-- Follows the components of a path from a directory. The last one may name nothing yet. -/
def walk (tree : FileTree) (place : List String) : List String → Except FileFault (List String)
  | [] => .ok place
  | name :: rest =>
      if name = "." then tree.walk place rest
      else if name = ".." then tree.walk place.dropLast rest
      else if nameLimit < name.utf8ByteSize then .error .nameTooLong
      else if rest.isEmpty then .ok (place ++ [name])
      else match tree.node? (place ++ [name]) with
        | some .directory => tree.walk (place ++ [name]) rest
        | some (.file _) => .error .notDirectory
        | none => .error .notFound

/-- The place from which a path leads on: the root for a path that starts with a slash. -/
def base (tree : FileTree) (path : String) : List String :=
  if path.toList.head? = some '/' then [] else tree.work

/-- The place that a path names. -/
def locate (tree : FileTree) (path : String) : Except FileFault (List String) :=
  if path = "" then .error .notFound
  else if pathLimit < path.utf8ByteSize then .error .nameTooLong
  else tree.walk (tree.base path) (pathComponents path)

/-- Whether a path ends with a slash and so can only name a directory. -/
def namesDirectory (path : String) : Bool :=
  path.toList.getLast? = some '/'

/-- Whether a path holds the character of code zero, which no operation accepts. -/
def hasZero (path : String) : Bool :=
  path.toList.contains '\x00'

/-- What stands at the place of a path. -/
def status (tree : FileTree) (path : String) : Except FileFault Node := do
  let place ← tree.locate path
  match tree.node? place with
  | none => .error .notFound
  | some (.file text) => if namesDirectory path then .error .notDirectory else .ok (.file text)
  | some .directory => .ok .directory

/-- Whether a path names a file or a directory. -/
def holds (tree : FileTree) (path : String) : Bool :=
  !hasZero path && (tree.status path).toBool

/-- Whether a path names a directory. -/
def holdsDirectory (tree : FileTree) (path : String) : Bool :=
  !hasZero path && match tree.status path with
    | .ok .directory => true
    | _ => false

/-- Whether a path names something, when a path that is too long is an error. -/
def probe (tree : FileTree) (path : String) : Except FileError Bool :=
  if hasZero path then .ok false
  else match tree.status path with
    | .ok _ => .ok true
    | .error .nameTooLong => .error (.refused .nameTooLong path)
    | .error _ => .ok false

/-! ## 2. Files -/

/-- Refuses paths with a zero, and names the path in every fault. -/
def atPath {α : Type} (path : String) (x : Except FileFault α) : Except FileError α :=
  if hasZero path then .error .zeroInPath
  else x.mapError fun fault => .refused fault path

/-- The text of a file, with every line end as one line feed. -/
def readText (tree : FileTree) (path : String) : Except FileError String :=
  atPath path do
    match ← tree.status path with
    | .file text => .ok (String.ofList (Text.unifyNewlines text.toList))
    | .directory => .error .isDirectory

/-- The place of a file that is to be written, and its text so far. -/
def target (tree : FileTree) (path : String) : Except FileError (List String × String) :=
  atPath path do
    let place ← tree.locate path
    if namesDirectory path then
      throw .isDirectory
    match tree.node? place with
    | some .directory => .error .isDirectory
    | some (.file text) => .ok (place, text)
    | none => .ok (place, "")

/-- The tree with the file made if it is not there yet, and the place of the file. -/
def openForAppend (tree : FileTree) (path : String) : Except FileError (FileTree × List String) := do
  let (place, text) ← tree.target path
  return (tree.set place (.file text), place)

/-- Adds text to the end of the file at a place. -/
def appendAt (tree : FileTree) (place : List String) (more : String) : FileTree :=
  match tree.node? place with
  | some (.file text) => tree.set place (.file (text ++ more))
  | _ => tree.set place (.file more)

/-- Adds text to the end of a file, which is made if it is not there yet. -/
def append (tree : FileTree) (path more : String) : Except FileError FileTree := do
  let (place, text) ← tree.target path
  return tree.set place (.file (text ++ more))

/-- Replaces the text of a file, which is made if it is not there yet. -/
def overwrite (tree : FileTree) (path text : String) : Except FileError FileTree := do
  let (place, _) ← tree.target path
  return tree.set place (.file text)

/-! ## 3. Directories -/

/-- Makes one directory, where nothing may be yet. -/
def makeDirectory (tree : FileTree) (path : String) : Except FileFault FileTree := do
  let place ← tree.locate path
  match tree.node? place with
  | some _ => .error .taken
  | none => .ok (tree.set place .directory)

/-- Makes one directory, unless it is there already; the error keeps the tree as it is. -/
def ensureDirectory (tree : FileTree) (path : String) : FileTree × Except FileError Unit :=
  if hasZero path then (tree, .error .zeroInPath)
  else match tree.makeDirectory path with
    | .ok tree => (tree, .ok ())
    | .error fault => (tree, if tree.holdsDirectory path then .ok () else .error (.refused fault path))

/-- The directories to make for a path, the outermost first. What exists needs none of those in front. -/
def missingDirectories (tree : FileTree) (cs : List Char) : List String :=
  let head := (lastComponent cs).1
  if _h : (lastComponent cs).2 = [] then [String.ofList cs]
  else if head = [] || tree.holds (String.ofList head) then [String.ofList cs]
  else missingDirectories tree head ++ [String.ofList cs]
termination_by cs.length
decreasing_by exact length_lastComponent_lt _h

/-- Makes directories one after the other, up to the first error. Something else at a place on the way is no
error yet: it will be in the way of the next directory. -/
def ensureAll (tree : FileTree) : List String → FileTree × Except FileError Unit
  | [] => (tree, .ok ())
  | [path] => tree.ensureDirectory path
  | path :: paths =>
      match tree.ensureDirectory path with
      | (tree, .ok ()) | (tree, .error (.refused .taken _)) => tree.ensureAll paths
      | failed => failed

/-- Makes the directory of a path and the ones it stands in, unless they are there already. -/
def makeDirectories (tree : FileTree) (path : String) : FileTree × Except FileError Unit :=
  tree.ensureAll (tree.missingDirectories path.toList)

/-- Makes the directory of a path in normal form, and the ones it stands in where they are missing. -/
def makePathFrom (tree : FileTree) (root : String) : List String → FileTree × Except FileError Unit
  | [] => tree.ensureDirectory (Path.text ⟨root, []⟩)
  | name :: outer =>
      let path := Path.text ⟨root, (name :: outer).reverse⟩
      if hasZero path then (tree, .error .zeroInPath)
      else match tree.makeDirectory path with
        | .error .notFound =>
            match makePathFrom tree root outer with
            | (tree, .ok ()) => tree.ensureDirectory path
            | failed => failed
        | _ => tree.ensureDirectory path

/-- Makes the directory of a path in normal form, and the ones it stands in where they are missing. -/
def makePath (tree : FileTree) (path : Path) : FileTree × Except FileError Unit :=
  tree.makePathFrom path.root path.parts.reverse

/-! ## 4. Building and listing -/

/-- The places that lead to a place, the outermost first. -/
def parents (place : List String) : List (List String) :=
  (List.range place.length).map fun n => place.take n

/-- The tree with a node at a place, and with directories on the way to it. -/
def addAt (tree : FileTree) (place : List String) (node : Node) : FileTree :=
  ((parents place).foldl (fun tree parent => tree.set parent .directory) tree).set place node

/-- A tree with nothing but the working directory. -/
def empty (work : List String) : FileTree :=
  addAt ⟨∅, work⟩ work .directory

/-- The place of a path, if everything on the way to it is a directory. -/
def placeOf (tree : FileTree) (path : String) : List String :=
  (pathComponents path).foldl
    (fun place name =>
      if name = "." then place else if name = ".." then place.dropLast else place ++ [name])
    (tree.base path)

/-- The tree with one more file, whose directories are made; a path with a slash at its end is an empty
directory. -/
def add (tree : FileTree) (path text : String) : FileTree :=
  tree.addAt (tree.placeOf path) (if namesDirectory path then .directory else .file text)

/-- The tree of some files in a working directory. -/
def ofFiles (work : List String) (files : List (String × String)) : FileTree :=
  files.foldl (fun tree file => tree.add file.1 file.2) (empty work)

/-- The nodes in the working directory by their components, in order. -/
def entries (tree : FileTree) : List (List String × Node) :=
  tree.nodes.toList.filterMap fun (place, node) =>
    if tree.work.isPrefixOf place && tree.work ≠ place then some (place.drop tree.work.length, node) else none

/-- The files in the working directory with their texts, and its empty directories with a slash. -/
def listing (tree : FileTree) : List (String × String) :=
  tree.entries.filterMap fun (place, node) =>
    let path := "/".intercalate place
    match node with
    | .file text => some (path, text)
    | .directory =>
        if tree.entries.any fun entry => entry.1.length = place.length + 1 && place.isPrefixOf entry.1
        then none else some (path ++ "/", "")

end FileTree

end TapeMachine
