import PostMortem.FileTree.Basic

/-! # Access to a file tree by path

A path is followed name by name; every name but the last must be that of a directory. `.` stays and `..` goes one
directory up, at the root nowhere. What the last name has to be depends on the operation. A path with a null character
in it, and one that is too long, is refused before it is followed.

* `openNode`: the node of a file, for reading and writing, created empty if that is wanted.
* `read`, `replace`, `overwrite`: whole contents and parts of them.
* `removeFile`, `makeDirectory`, `makeParents`, `rename`: changes of the name space.
* `withDirectory`, `withFile`: building up a tree.
-/
set_option autoImplicit false

namespace PostMortem.FileTree

/-! ## Following a path -/

/-- Whether a name is one that no directory can hold. -/
def isTooLong (name : String) : Bool := nameLimit < (Text.Utf8.encode name).length

/-- What a name in a directory stands for. -/
def find (t : FileTree) (place : Place) : Except Errno (Option Entry) :=
  if isTooLong place.name then .error .nameTooLong else .ok (t.named? place)

/-- The directory that a name leads to from a directory. -/
def enter (t : FileTree) (directory : Nat) (name : String) : Except Errno Nat :=
  if name = "." then .ok directory
  else if name = ".." then .ok (t.above directory)
  else do
    match ← t.find ⟨directory, name⟩ with
    | some (.directory number) => return number
    | some (.file _) => throw .notDirectory
    | none => throw .noEntry

/-- Where a path leads: a directory reached by its last step being `.`, `..` or the root, or a name in a directory,
which may be free. -/
inductive Target
  | directory (number : Nat)
  | named (place : Place)
deriving DecidableEq, Repr

/-- Where the last name of a path leads from the directory that the others lead to. -/
def lastStep (t : FileTree) (directory : Nat) : Option String → Target
  | none => .directory directory
  | some name =>
    if name = "." then .directory directory
    else if name = ".." then .directory (t.above directory)
    else .named ⟨directory, name⟩

def start (t : FileTree) (path : Path) : Nat := if path.isAbsolute then root else t.home

/-- Refuses a path that is not even followed. -/
def checkPath (path : Path) : Except IoError Unit :=
  if path.hasNull then .error .nullInPath
  else if path.isEmpty then .error (.system .noEntry)
  else if Path.sizeLimit < path.size then .error (.system .nameTooLong)
  else .ok ()

def locate (t : FileTree) (path : Path) : Except IoError Target := do
  checkPath path
  let directory ← (path.names.dropLast.foldlM t.enter (t.start path)).mapError .system
  return t.lastStep directory path.names.getLast?

/-! ## Files -/

/-- The node of the file that a path names. A free name is given to a new empty file if `create` is set. A path that
ends in a slash never names a file. -/
def openNode (t : FileTree) (create : Bool) (path : Path) : Except IoError (Nat × FileTree) := do
  match ← t.locate path with
  | .directory _ => throw (.system .isDirectory)
  | .named place =>
    if create && path.endsInSlash then throw (.system .isDirectory)
    match ← (t.find place).mapError .system with
    | some (.directory _) => throw (.system .isDirectory)
    | some (.file node) => if path.endsInSlash then throw (.system .notDirectory) else return (node, t)
    | none => if create then return t.addFile place [] else throw (.system .noEntry)

/-- The bytes of the file that a path names. -/
def read (t : FileTree) (path : Path) : Except IoError (List UInt8) :=
  (t.openNode false path).map fun (node, _) => t.content node

/-- Replaces the content of the file that a path names, which is created if need be. -/
def replace (t : FileTree) (path : Path) (bytes : List UInt8) : Except IoError FileTree :=
  (t.openNode true path).map fun (node, t) => t.setContent node bytes

/-- Bytes with others written over them from an offset on; a gap is filled with zeros. -/
def overwritten (old : List UInt8) (offset : Nat) (bytes : List UInt8) : List UInt8 :=
  if bytes.isEmpty then old
  else
    old.take offset ++ List.replicate (offset - old.length) 0 ++ bytes ++ old.drop (offset + bytes.length)

/-- Writes over a part of the file that a path names. -/
def overwrite (t : FileTree) (path : Path) (offset : Nat) (bytes : List UInt8) : Except IoError FileTree :=
  (t.openNode false path).map fun (node, t) => t.setContent node (overwritten (t.content node) offset bytes)

def removeFile (t : FileTree) (path : Path) : Except IoError FileTree := do
  match ← t.locate path with
  | .directory _ => throw (.system .isDirectory)
  | .named place =>
    match ← (t.find place).mapError .system with
    | some (.directory _) => throw (.system .isDirectory)
    | some (.file _) => if path.endsInSlash then throw (.system .notDirectory) else return t.erase place
    | none => throw (.system .noEntry)

/-! ## Directories -/

def makeDirectory (t : FileTree) (path : Path) : Except IoError FileTree := do
  match ← t.locate path with
  | .directory _ => throw (.system .alreadyExists)
  | .named place =>
    match ← (t.find place).mapError .system with
    | some _ => throw (.system .alreadyExists)
    | none => return (t.addDirectory place).2

/-- Follows names through directories and makes those that are missing. A file on the way is in the way of a directory
if one is to be made there, because it is the last or because one before it was missing; else it is none to go
through. -/
def makeAll (t : FileTree) (directory : Nat) (missing : Bool) : List String → Except Errno Unit × FileTree
  | [] => (.ok (), t)
  | name :: rest =>
    match t.enter directory name with
    | .ok number => t.makeAll number missing rest
    | .error .noEntry =>
      let (number, t) := t.addDirectory ⟨directory, name⟩
      t.makeAll number true rest
    | .error .notDirectory => (.error (if missing || rest.isEmpty then .alreadyExists else .notDirectory), t)
    | .error reason => (.error reason, t)

/-- Creates the directory that a path names, and those on the way to it. The empty path names a directory that is there.
What was made before a failure stays. -/
def makeDirectories (t : FileTree) (path : Path) : Except IoError Unit × FileTree :=
  if path.isEmpty then (.ok (), t)
  else
    match checkPath path with
    | .error e => (.error e, t)
    | .ok () =>
      let (result, t) := t.makeAll (t.start path) false path.names
      (result.mapError .system, t)

/-- Creates the directory that is to hold what the path names, and those on the way to it. -/
def makeParents (t : FileTree) (path : Path) : Except IoError Unit × FileTree := t.makeDirectories path.parent

/-- Gives a file or directory another place. A file may take the place of a file, a directory that of an empty
directory; nothing moves into itself. -/
def rename (t : FileTree) (source target : Path) : Except IoError FileTree := do
  match ← t.locate source, ← t.locate target with
  | .named a, .named b =>
    match ← (t.find a).mapError .system, ← (t.find b).mapError .system with
    | none, _ => throw (.system .noEntry)
    | some (.file _), some (.directory _) => throw (.system .isDirectory)
    | some (.file _), _ =>
      if source.endsInSlash || target.endsInSlash then throw (.system .notDirectory)
      else if a = b then return t
      else return t.move a b
    | some (.directory _), some (.file _) => throw (.system .notDirectory)
    | some (.directory number), some (.directory taken) =>
      if number = taken then return t
      else if t.encloses number t.parents.length b.directory then throw (.system .invalidArgument)
      else if t.isInhabited taken then throw (.system .notEmpty)
      else return t.move a b
    | some (.directory number), none =>
      if t.encloses number t.parents.length b.directory then throw (.system .invalidArgument)
      else return t.move a b
  | _, _ => throw (.system .busy)

/-! ## Building up a tree -/

/-- The tree with a directory at a path, and those on the way to it, as far as they can be made. -/
def withDirectory (t : FileTree) (path : Path) : FileTree := (t.makeDirectories path).2

/-- The tree with a file at a path, and the directories on the way to it, as far as they can be made. -/
def withFile (t : FileTree) (path : Path) (bytes : List UInt8) : FileTree :=
  let t := (t.makeParents path).2
  (t.replace path bytes).toOption.getD t

end PostMortem.FileTree
