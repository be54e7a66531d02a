import Enrollment.Error
import Enrollment.Files.Path
import Enrollment.Octets.Utf8

/-!
# Files

The files and directories of a file system, as far as they are known. Reading and writing walk the
names of a path one after the other, so that a path fails where the first of its names does. Paths
without a root begin at the working directory.
-/

namespace Enrollment

/-- What a name stands for. -/
inductive Node where
  | directory
  | file (bytes : Octets)
deriving DecidableEq, Repr

/-- A place in the file system: the names from the root on. -/
abbrev Place := List String

/-- Files and directories by their place. -/
structure FileTree where
  /-- The place of the working directory. -/
  home : Place := ["work"]
  nodes : List (Place × Node) := []
deriving Repr, Inhabited

namespace FileTree

/-- What stands at a place. The working directory and those above it are always there. -/
def node? (t : FileTree) (place : Place) : Option Node :=
  if place.isPrefixOf t.home then some .directory else t.nodes.lookup place

/-- Sets what stands at a place. -/
def putNode (place : Place) (node : Node) : List (Place × Node) → List (Place × Node)
  | [] => [(place, node)]
  | (p, old) :: more => if p = place then (p, node) :: more else (p, old) :: putNode place node more

/-- The tree with something at a place. -/
def put (t : FileTree) (place : Place) (node : Node) : FileTree :=
  { t with nodes := putNode place node t.nodes }

/-- The tree with a directory, unless something stands there. -/
def addDirectory (t : FileTree) (place : Place) : FileTree :=
  match t.node? place with
  | some _ => t
  | none => t.put place .directory

/-- The place of a name in a place. -/
def step (place : Place) (name : String) : Place :=
  if name = ".." then place.dropLast else place ++ [name]

/-- The place that a path begins at. -/
def start (t : FileTree) (path : Path) : Place := if path.root = "" then t.home else []

/-- The place that a path leads to from a working directory, whatever stands on the way. -/
def destination (home : Place) (path : Path) : Place :=
  path.names.foldl step (if path.root = "" then home else [])

/-- The path from the root on to where a path leads. -/
def absolute (t : FileTree) (path : Path) : Path :=
  ⟨if path.root = "" then "/" else path.root, destination t.home path⟩

/-- The tree with something and all directories above it. -/
def add (t : FileTree) (path : Path) (node : Node) : FileTree :=
  let above := (List.range path.names.length).map fun n =>
    (path.names.take n).foldl step (t.start path)
  (above.foldl addDirectory t).put (path.names.foldl step (t.start path)) node

/-- How many octets a name may have. -/
def nameLimit : Nat := 255

/-- Walks along names from a place. All but the last have to be directories. -/
def walk (t : FileTree) (shown : String) : Place → List String → Except FileFault Place
  | place, [] => .ok place
  | place, name :: more =>
    match t.node? place with
    | none => .error (.notFound shown)
    | some (.file _) => .error (.notDirectory shown)
    | some .directory =>
      if nameLimit < (Octets.ofText name).length then .error (.nameTooLong shown)
      else walk t shown (step place name) more

/-- The place of a path. Something need not stand there. -/
def locate (t : FileTree) (path : Path) : Except FileFault Place :=
  walk t path.text (t.start path) path.names

/-- The content of the file at a path. -/
def read (t : FileTree) (path : Path) : Except FileFault Octets :=
  match t.locate path with
  | .error fault => .error fault
  | .ok place =>
    match t.node? place with
    | none => .error (.notFound path.text)
    | some .directory => .error (.isDirectory path.text)
    | some (.file bytes) => .ok bytes

/-- Whether something stands at a path. -/
def exists? (t : FileTree) (path : Path) : Bool :=
  match t.locate path with
  | .error _ => false
  | .ok place => (t.node? place).isSome

/-- Whether a directory stands at a path. -/
def isDirectory (t : FileTree) (path : Path) : Bool :=
  match t.locate path with
  | .error _ => false
  | .ok place => t.node? place == some .directory

/-- The tree with a file of a content that may depend on what the file held. -/
def update (t : FileTree) (path : Path) (content : Octets → Octets) : Except FileFault FileTree :=
  match t.locate path with
  | .error fault => .error fault
  | .ok place =>
    match t.node? place with
    | some .directory => .error (.isDirectory path.text)
    | some (.file old) => .ok (t.put place (.file (content old)))
    | none => .ok (t.put place (.file (content [])))

/-- The tree with a file of the given content. -/
def write (t : FileTree) (path : Path) (bytes : Octets) : Except FileFault FileTree :=
  t.update path fun _ => bytes

/-- The tree with octets at the end of a file. -/
def append (t : FileTree) (path : Path) (bytes : Octets) : Except FileFault FileTree :=
  t.update path (· ++ bytes)

/-- The tree with a directory at a path, which nothing may stand at yet. -/
def makeDirectory (t : FileTree) (path : Path) : Except FileFault FileTree :=
  match t.locate path with
  | .error fault => .error fault
  | .ok place =>
    match t.node? place with
    | some _ => .error (.alreadyThere path.text)
    | none => .ok (t.put place .directory)

/-- Makes a directory; one that is there is kept. -/
def keepDirectory (t : FileTree) (path : Path) : Except FileFault Unit × FileTree :=
  match t.makeDirectory path with
  | .ok t => (.ok (), t)
  | .error fault => (if t.isDirectory path then .ok () else .error fault, t)

/-- Makes a directory and the missing ones above it, which `depth` bounds. What was made before a
fault stays. -/
def makeDirectories (t : FileTree) : Nat → Path → Except FileFault Unit × FileTree
  | 0, _ => (.ok (), t)
  | depth + 1, path =>
    match t.makeDirectory path with
    | .error (.notFound _) =>
      match makeDirectories t depth path.parent with
      | (.error fault, t) => (.error fault, t)
      | (.ok (), t) => t.keepDirectory path
    | _ => t.keepDirectory path

/-- Makes the directory at a path and all above it. -/
def ensureDirectory (t : FileTree) (path : Path) : Except FileFault Unit × FileTree :=
  t.makeDirectories (path.names.length + 1) path

end FileTree

/-- Reads a file. A path with a NUL is refused before the file system sees it. -/
def readFile (t : FileTree) (path : Path) : Except Fault Octets :=
  if path.hasNul then .error .nulInPath else (t.read path).mapError .file

/-- Makes a directory and the missing ones above it, which `depth` bounds, from the top on. So a NUL
is found only once the directories above it are made. -/
def makeFromTop (t : FileTree) : Nat → Path → Except Fault Unit × FileTree
  | 0, _ => (.ok (), t)
  | depth + 1, path =>
    let above :=
      if path.names.isEmpty || (!path.parent.hasNul && t.exists? path.parent) then (.ok (), t)
      else makeFromTop t depth path.parent
    match above with
    | (.error fault, t) => (.error fault, t)
    | (.ok (), t) =>
      if path.hasNul then (.error .nulInPath, t)
      else
        let (made, t) := t.keepDirectory path
        (made.mapError .file, t)

/-- Opens the file at a path for more text, with the directories above it; a file that is there is
kept. -/
def openFile (t : FileTree) (path : Path) : Except Fault Unit × FileTree :=
  match makeFromTop t (path.names.length + 1) path.parent with
  | (.error fault, t) => (.error fault, t)
  | (.ok (), t) =>
    if path.hasNul then (.error .nulInPath, t)
    else match t.append path [] with
      | .error fault => (.error (.file fault), t)
      | .ok t => (.ok (), t)

end Enrollment
