import PostMortem.FileTree.Error
import PostMortem.FileTree.Path

/-! # File trees

A file tree has numbered directories, the root being number 0, and names in them. A name stands for another directory or
for a file. A file's content belongs to a node and not to its name: whoever holds the node sees and changes the content
whether the file still has a name or not. A new directory or file gets a number that nothing in the tree goes by, so that
it is never taken for another one.

* `FileTree.named?`: what a name in a directory stands for.
* `FileTree.above`: the directory above a directory.
* `FileTree.content`, `FileTree.setContent`: the bytes of a node.
* `FileTree.unused`: the number of the next directory or file.
* `FileTree.addFile`, `FileTree.addDirectory`, `FileTree.erase`, `FileTree.move`: changes of the name space.
-/
set_option autoImplicit false

namespace PostMortem

/-- A name in a directory, which is given by its number. -/
structure Place where
  directory : Nat
  name : String
deriving DecidableEq, Repr

/-- What a name stands for. A directory is known by its number, a file by its node. -/
inductive Entry
  | directory (number : Nat)
  | file (node : Nat)
deriving DecidableEq, Repr

/-- The number of the directory or of the file's node. -/
def Entry.number : Entry → Nat
  | directory number => number
  | file node => node

/-- Directories, the names in them, and the contents of the nodes. -/
structure FileTree where
  /-- The working directory, where paths that do not start at the root begin. -/
  home : Nat
  /-- The directories with the one above each; above one that is not listed, as above itself, is the root. -/
  parents : List (Nat × Nat)
  /-- What the names stand for, the newest first. -/
  entries : List (Place × Entry)
  /-- The nodes with the bytes of each; one that is not listed is empty. -/
  nodes : List (Nat × List UInt8)
deriving DecidableEq, Repr

namespace FileTree

/-! ## Reading -/

def root : Nat := 0

def bare : FileTree := ⟨root, [], [], []⟩

/-- What a name in a directory stands for, if anything. -/
def named? (t : FileTree) (place : Place) : Option Entry := t.entries.lookup place

def above (t : FileTree) (directory : Nat) : Nat := (t.parents.lookup directory).getD root

/-- Whether a directory is another one or on the way from it to the root, at most `fuel` steps up. -/
def encloses (t : FileTree) (directory : Nat) : Nat → Nat → Bool
  | 0, inner => inner == directory
  | fuel + 1, inner => inner == directory || (inner != root && t.encloses directory fuel (t.above inner))

def isInhabited (t : FileTree) (directory : Nat) : Bool := t.entries.any fun entry => entry.1.directory == directory

def content (t : FileTree) (node : Nat) : List UInt8 := (t.nodes.lookup node).getD []

/-! ## New numbers -/

/-- The numbers that something in the tree goes by. -/
def numbers (t : FileTree) : List Nat :=
  root :: t.home :: (t.parents.flatMap fun parent => [parent.1, parent.2]) ++
    (t.entries.flatMap fun entry => [entry.1.directory, entry.2.number]) ++ t.nodes.map fun node => node.1

/-- A number that nothing in the tree goes by: one more than the largest of those in use. -/
def unused (t : FileTree) : Nat := t.numbers.foldr max root + 1

/-! ## Changes -/

/-- The tree in which a node has other bytes. -/
def setContent (t : FileTree) (node : Nat) (bytes : List UInt8) : FileTree :=
  { t with nodes := (node, bytes) :: t.nodes.filter fun other => other.1 != node }

/-- The tree with one more directory, and its number. -/
def addDirectory (t : FileTree) (place : Place) : Nat × FileTree :=
  let number := t.unused
  (number,
    { t with parents := (number, place.directory) :: t.parents, entries := (place, .directory number) :: t.entries })

/-- The tree with one more file, and its node. -/
def addFile (t : FileTree) (place : Place) (bytes : List UInt8) : Nat × FileTree :=
  let node := t.unused
  (node, { t with entries := (place, .file node) :: t.entries, nodes := (node, bytes) :: t.nodes })

/-- The tree without a name. What it stood for stays, but only who knows its number can still get at it. -/
def erase (t : FileTree) (place : Place) : FileTree :=
  { t with entries := t.entries.filter fun entry => entry.1 != place }

/-- The tree in which what has one name has another one instead. -/
def move (t : FileTree) (source target : Place) : FileTree :=
  match t.named? source with
  | none => t
  | some entry =>
    let t := (t.erase source).erase target
    let t := { t with entries := (target, entry) :: t.entries }
    match entry with
    | .directory number =>
      { t with parents := (number, target.directory) :: t.parents.filter fun parent => parent.1 != number }
    | .file _ => t

/-! ## New trees -/

/-- Makes a directory and moves into it. -/
def goInto (start : Nat × FileTree) (name : String) : Nat × FileTree := start.2.addDirectory ⟨start.1, name⟩

/-- A tree with an empty working directory, which these names lead to. -/
def fresh (names : List String) : FileTree :=
  let (home, t) := names.foldl goInto (root, bare)
  { t with home := home }

end FileTree

end PostMortem
