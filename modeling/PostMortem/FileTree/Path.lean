import PostMortem.Text.Utf8

/-! # Paths

A path is a text of names between slashes. A slash in front makes it start at the root; one at the end says that the
path is to name a directory. Empty names between slashes do not count.

* `Path.parse`, `Path.text`: a path from its text, and its text.
* `Path.names`: the names that count.
* `Path.parent`: the path of the directory that holds what the path names.
-/
set_option autoImplicit false

namespace PostMortem

/-- The longest name of a file or directory, in bytes. -/
def nameLimit : Nat := 255

/-- A path. -/
structure Path where
  /-- The runs of characters between slashes, empty ones included. -/
  runs : List String
deriving DecidableEq, Repr

namespace Path

/-- The longest path that is followed, in bytes. -/
def sizeLimit : Nat := 4095

/-- The runs of characters between slashes. -/
def split : List Char → List (List Char)
  | [] => [[]]
  | c :: rest =>
    if c = '/' then [] :: split rest
    else
      match split rest with
      | run :: more => (c :: run) :: more
      | [] => [[c]]

def parse (text : String) : Path := ⟨(split text.toList).map String.ofList⟩

/-- The names in order. -/
def names (path : Path) : List String := path.runs.filter (· != "")

def isAbsolute (path : Path) : Bool := path.runs.head? == some "" && path.runs.length != 1

def endsInSlash (path : Path) : Bool := path.runs.getLast? == some "" && path.runs.length != 1

def isEmpty (path : Path) : Bool := path.names.isEmpty && !path.isAbsolute

def text (path : Path) : String := String.intercalate "/" path.runs

def size (path : Path) : Nat := (Text.Utf8.encode path.text).length

/-- Whether a name holds the null character, which no file name can. -/
def hasNull (path : Path) : Bool := path.runs.any fun run => run.toList.contains '\x00'

/-- The runs without those at the end that lead nowhere: empty ones, and those called `.`. -/
def trimmed (runs : List String) : List String := (runs.reverse.dropWhile fun run => run == "" || run == ".").reverse

/-- The path of the directory that holds what the path names, where a last name `.` does not count. -/
def parent (path : Path) : Path := ⟨trimmed (trimmed path.runs).dropLast⟩

end Path

end PostMortem
