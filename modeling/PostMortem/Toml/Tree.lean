/-! # Document trees

What a TOML document says: tables of keys, arrays and scalars, each with the mark of where it starts. Arrays written
in brackets and arrays of tables are kept apart, and every table knows how it came about, because that decides what
may be added to it later.

* `Mark`: a place in the document, as the number of characters from there to its end.
* `Position.ofMark`: the line and column of a mark.
-/
set_option autoImplicit false

namespace PostMortem.Toml

/-! ## Places in a document -/

/-- A place in a document: how many characters there are from it to the end. -/
abbrev Mark := Nat

/-- A line and a column, both counted from 1; a column is a character. -/
structure Position where
  line : Nat
  column : Nat
deriving DecidableEq, Repr

def Position.after (start : Position) : List Char → Position
  | [] => start
  | c :: rest => after (if c = '\n' then ⟨start.line + 1, 1⟩ else ⟨start.line, start.column + 1⟩) rest

/-- The position of a mark in a document. -/
def Position.ofMark (document : List Char) (mark : Mark) : Position :=
  after ⟨1, 1⟩ (document.take (document.length - mark))

/-! ## Values -/

/-- A key as it stands in the document. -/
structure Key where
  name : String
  mark : Mark
deriving DecidableEq, Repr

/-- The number that a literal with a point or an exponent, or a word, stands for. -/
inductive Real
  | decimal (negative : Bool) (digits : Nat) (exponent : Int)
  | infinity (negative : Bool)
  | nan
deriving DecidableEq, Repr

/-- A value without parts. What is written as a whole number may have digits that its base does not have, or none at
all; it is an integer then too, but stands for no number. -/
inductive Scalar
  | string (value : String)
  | integer (value : Option Int)
  | real (value : Real)
  | boolean (value : Bool)
  | dateTime
deriving DecidableEq, Repr

/-- How a table came about. -/
structure TableKind where
  /-- It was never written itself, but is on the way to something that was. -/
  implicit : Bool := false
  /-- It was made by a key with dots. -/
  dotted : Bool := false
  /-- It was written in braces. -/
  braced : Bool := false
deriving DecidableEq, Repr

/-- A value with its parts. -/
inductive Node
  | scalar (value : Scalar)
  | array (items : List (Mark × Node))
  | tables (items : List (Mark × Node))
  | table (kind : TableKind) (entries : List (Key × Mark × Node))

/-- The entries of a table: the key, where the value starts, and the value. -/
abbrev Entries := List (Key × Mark × Node)

end PostMortem.Toml
