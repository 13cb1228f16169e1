import PostMortem.Toml.Lexical

/-! # Outlines of documents

The outline of a document is what it says up to its keys and scalars: which statements there are, and how their values
are made up. Keys and scalars stand in it as they are written; whether they are well formed is not looked at. One may
even be missing: a key before a dot, an equality sign or the end of a header, and a value at the end of its line or of
its table in braces. It then stands there without characters.

Every reader takes the characters that remain and gives back what it read with the characters that remain then, or
nothing if the text has no outline. Between the items of arrays and of tables in braces, and around the equality signs
of such tables, may stand blanks, comments and line ends, and behind the last item a comma.

* `splitName`: keys with dots between them.
* `outline?`: the outline of a value that nests to at most `depthLimit`.
* `statements?`: the statements of a document, one a line.
-/
set_option autoImplicit false

namespace PostMortem.Toml

/-! ## Names -/

/-- A key as it is written, and where it stands. -/
structure Lexeme where
  mark : Mark
  text : List Char
deriving DecidableEq, Repr

/-- Keys with dots between them: those on the way, and the last. -/
structure Name where
  path : List Lexeme
  last : Lexeme
deriving DecidableEq, Repr

/-- Reads a name of at most `fuel` dots, and the blanks behind it. -/
def splitNameWithin : Nat → List Char → Name × List Char
  | 0, s => (⟨[], s.length, []⟩, s)
  | fuel + 1, s =>
    let key : Lexeme := ⟨s.length, keyText s⟩
    match skipBlanks (s.drop key.text.length) with
    | '.' :: rest =>
      let (name, rest) := splitNameWithin fuel (skipBlanks rest)
      (⟨key :: name.path, name.last⟩, rest)
    | rest => (⟨[], key⟩, rest)

/-- Reads a name, and the blanks behind it. Its dots are fewer than the characters that remain. -/
def splitName (s : List Char) : Name × List Char := splitNameWithin (s.length + 1) s

/-! ## Values -/

/-- The most arrays and tables that may stand inside one another. -/
def depthLimit : Nat := 80

/-- A value as it is written. -/
inductive Outline
  | scalar (text : List Char)
  | array (items : List (Mark × Outline))
  | braces (entries : List (Name × Mark × Outline))

def Outline.missing : Outline := .scalar []

/-- A reader of values. -/
abbrev OutlineReader := List Char → Option (Outline × List Char)

def scalarOutline? : OutlineReader := fun s =>
  let text := scalarText s
  if text.isEmpty then none else some (.scalar text, s.drop text.length)

def startsWith (c : Char) (s : List Char) : Bool := s.head? == some c

/-- Reads what separates items: a comma, or the closing mark, before which the reader stops. -/
def separator? (closing : Char) (s : List Char) : Option (List Char) := do
  match ← skipVoid? s with
  | ',' :: rest => some rest
  | rest => if startsWith closing rest then some rest else none

/-- Reads at most `fuel` items of an array, up to its closing bracket. -/
def itemsWithin? (value? : OutlineReader) : Nat → List Char → Option (List (Mark × Outline) × List Char)
  | 0, _ => none
  | fuel + 1, s => do
    match ← skipVoid? s with
    | ']' :: rest => some ([], rest)
    | s => do
      let (value, rest) ← value? s
      let rest ← separator? ']' rest
      let (items, rest) ← itemsWithin? value? fuel rest
      some ((s.length, value) :: items, rest)

/-- Reads a name, the equality sign and a value in a table in braces. Before the closing brace the value may be missing,
and the equality sign with it. -/
def entry? (value? : OutlineReader) (s : List Char) : Option ((Name × Mark × Outline) × List Char) := do
  let (name, rest) := splitName s
  let rest ← match ← skipVoid? rest with
    | '=' :: rest => skipVoid? rest
    | rest => if startsWith closeBrace rest then some rest else none
  let (value, after) ← if startsWith closeBrace rest then some (.missing, rest) else value? rest
  some ((name, rest.length, value), after)

/-- Reads at most `fuel` assignments of a table in braces, up to its closing brace. -/
def entriesWithin? (value? : OutlineReader) : Nat → List Char → Option (List (Name × Mark × Outline) × List Char)
  | 0, _ => none
  | fuel + 1, s => do
    match ← skipVoid? s with
    | '\x7d' :: rest => some ([], rest)
    | s => do
      let (entry, rest) ← entry? value? s
      let rest ← separator? closeBrace rest
      let (entries, rest) ← entriesWithin? value? fuel rest
      some (entry :: entries, rest)

/-- Reads a value in which arrays and tables of fewer than `size` items nest to at most `depth`. -/
def outlineWithin? (size : Nat) : Nat → OutlineReader
  | 0, s => scalarOutline? s
  | depth + 1, s =>
    match s with
    | '[' :: rest =>
      (itemsWithin? (outlineWithin? size depth) size rest).map fun (items, rest) => (.array items, rest)
    | '\x7b' :: rest =>
      (entriesWithin? (outlineWithin? size depth) size rest).map fun (entries, rest) => (.braces entries, rest)
    | s => scalarOutline? s

/-- Reads a value. Its items are fewer than the characters that remain. -/
def outline? : OutlineReader := fun s => outlineWithin? s.length depthLimit s

/-! ## Statements -/

/-- One line of a document that says something. -/
inductive Statement
  | assignment (name : Name) (mark : Mark) (value : Outline)
  | header (repeated : Bool) (name : Name) (mark : Mark)

/-- Reads an assignment. Its value may be missing at the end of the line. -/
def assignment? (s : List Char) : Option (Statement × List Char) := do
  let (name, rest) := splitName s
  let '=' :: rest := rest | none
  let rest := skipBlanks rest
  let (value, after) ← if (lineEnd? rest).isSome then some (.missing, rest) else outline? rest
  let after ← lineEnd? after
  some (.assignment name rest.length value, after)

def closing? (repeated : Bool) : List Char → Option (List Char)
  | ']' :: rest =>
    if repeated then
      match rest with
      | ']' :: rest => some rest
      | _ => none
    else some rest
  | _ => none

/-- What remains behind at most `fuel` pieces of a line, from its comment or its end on at the latest. A string is one
piece, whatever stands in it. -/
def skipPieces : Nat → List Char → List Char
  | 0, s => s
  | fuel + 1, s =>
    if startsWith '#' s || startsWith '\n' s || startsWith '\r' s then s
    else skipPieces fuel (s.drop (max 1 (keyText s).length))

/-- What remains of a line from its comment or its end on. Its pieces are no more than the characters that remain. -/
def skipLine (s : List Char) : List Char := skipPieces s.length s

/-- Reads the rest of a header behind its opening brackets, up to the end of its line. If its last key is missing and
nothing closes it, what stands on the line does not matter. -/
def header? (repeated : Bool) (mark : Mark) (s : List Char) : Option (Statement × List Char) := do
  let (name, rest) := splitName (skipBlanks s)
  let rest ←
    if name.last.text.isEmpty && !startsWith ']' rest then some (skipLine rest) else closing? repeated rest
  let rest ← lineEnd? rest
  some (.header repeated name mark, rest)

/-- Reads one statement, up to the end of its line. -/
def statement? (s : List Char) : Option (Statement × List Char) :=
  match s with
  | '[' :: '[' :: rest => header? true s.length rest
  | '[' :: rest => header? false s.length rest
  | _ => assignment? s

/-- Reads at most `fuel` statements, up to the end of the document. -/
def statementsWithin? : Nat → List Char → Option (List Statement)
  | 0, _ => none
  | fuel + 1, s => do
    match ← skipVoid? s with
    | [] => some []
    | s => do
      let (statement, rest) ← statement? s
      (statementsWithin? fuel rest).map (statement :: ·)

/-- The statements of a document. A byte order mark at its start is passed over. -/
def statements? (document : List Char) : Option (List Statement) :=
  let s := match document with
    | '\ufeff' :: rest => rest
    | s => s
  statementsWithin? (s.length + 1) s

end PostMortem.Toml
