import PostMortem.FileTree.Access
import PostMortem.Log.Entry
import PostMortem.Store.Error
import PostMortem.Store.Image

/-! # Mapped record files

A mapped record is a record file that is held open: what is written through it is in the file at once, and stays with
that file whatever becomes of its name.

* `MappedRecord.openOrCreate`: opens a record file. The directories above and the file itself are made if they are
  missing, and an empty file is brought to its size.
* `MappedRecord.openExisting`: opens a record file, and never makes or changes anything. Both refuse a file of any
  other size as it is.
* `MappedRecord.save`, `MappedRecord.load`, `MappedRecord.clear`: the operations on the file's image.
-/
set_option autoImplicit false

namespace PostMortem

/-- A record file that is held open: the path it was opened by, and its node. -/
structure MappedRecord where
  path : String
  node : Nat
deriving DecidableEq, Repr

namespace MappedRecord

/-- Makes sure that an opened file has the size of a record file. -/
def fit (create : Bool) (node : Nat) (t : FileTree) : Except StoreError Unit × FileTree :=
  let size := (t.content node).length
  if size = 0 ∧ create then (.ok (), t.setContent node Image.blank)
  else if size = Image.size then (.ok (), t)
  else (.error (.invalidSize size Image.size), t)

def map (create : Bool) (path : String) (t : FileTree) : Except StoreError MappedRecord × FileTree :=
  match t.openNode create (.parse path) with
  | .error e => (.error (.io e), t)
  | .ok (node, t) =>
    let (result, t) := fit create node t
    (result.map fun _ => ⟨path, node⟩, t)

/-- Opens a record file, making it if it is missing. -/
def openOrCreate (path : String) (t : FileTree) : Except StoreError MappedRecord × FileTree :=
  match t.makeParents (.parse path) with
  | (.error e, t) => (.error (.io e), t)
  | (.ok (), t) => map true path t

def openExisting (path : String) (t : FileTree) : Except StoreError MappedRecord × FileTree := map false path t

/-- What opening a file at `path` leaves in the log: an entry if it succeeded. -/
def openLog (path : String) : Except StoreError MappedRecord → List LogEntry
  | .ok _ => [⟨.debug, "Mapped fault record file " ++ path, []⟩]
  | .error _ => []

def save (m : MappedRecord) (record : FaultRecord) (t : FileTree) : FileTree :=
  t.setContent m.node (Image.save (t.content m.node) record)

def load (m : MappedRecord) (t : FileTree) : Option FaultRecord := Image.decode? (t.content m.node)

def clear (m : MappedRecord) (t : FileTree) : FileTree :=
  t.setContent m.node (Image.clear (t.content m.node))

end MappedRecord

end PostMortem
