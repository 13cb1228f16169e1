import PostMortem.Toml.Tree

/-! # Tables under construction

Tables are written piece by piece: by keys with dots, by headers and by braces. What may be added where follows from
how the tables on the way came about.

* `Entries.atPath`: does something to the table that a path of keys leads to; missing tables on the way are made.
* `Entries.assign`: adds a value under keys with dots.
* `Entries.reopen`, `Entries.place`: what the header of a table does, before and after its assignments.
* `Entries.append`: what the header of an array of tables does, after its assignments.
-/
set_option autoImplicit false

namespace PostMortem.Toml.Entries

def get? (entries : Entries) (name : String) : Option (Mark × Node) :=
  (List.find? (fun entry => entry.1.name == name) entries).map (·.2)

/-- The entries with another value under a name. -/
def replace (entries : Entries) (name : String) (node : Node) : Entries :=
  entries.map fun (key, mark, old) => if key.name == name then (key, mark, node) else (key, mark, old)

def erase (entries : Entries) (name : String) : Entries := entries.filter fun entry => entry.1.name != name

/-- Does something to the table that a path leads to. A table that is missing on the way is made, at the key that names
it. Nothing is added to a table in braces from outside; keys with dots add nothing to a table that was written itself;
an array of tables stands for its last table. -/
def atPath {α : Type} (dotted : Bool) (act : TableKind → Entries → Option (α × Entries)) :
    List Key → TableKind → Entries → Option (α × Entries)
  | [], kind, entries => act kind entries
  | key :: path, _, entries =>
    match get? entries key.name with
    | none => do
      let kind : TableKind := { implicit := true, dotted := dotted }
      let (result, inner) ← atPath dotted act path kind []
      some (result, entries ++ [(key, key.mark, .table kind inner)])
    | some (_, .table kind inner) =>
      if kind.braced || (dotted && !kind.implicit) then none
      else do
        let (result, inner) ← atPath dotted act path kind inner
        some (result, replace entries key.name (.table kind inner))
    | some (_, .tables items) =>
      match items.getLast? with
      | some (mark, .table kind inner) => do
        let (result, inner) ← atPath dotted act path kind inner
        some (result, replace entries key.name (.tables (items.dropLast ++ [(mark, .table kind inner)])))
      | _ => none
    | some _ => none

/-- Adds a value under keys with dots. A table takes keys with dots before it, or without, never both, and no name
twice. -/
def assign (entries : Entries) (kind : TableKind) (path : List Key) (key : Key) (mark : Mark) (node : Node) :
    Option Entries :=
  let act (kind : TableKind) (inner : Entries) : Option (Unit × Entries) :=
    if kind.dotted == path.isEmpty || (get? inner key.name).isSome then none
    else some ((), inner ++ [(key, mark, node)])
  (atPath (!path.isEmpty) act path kind entries).map (·.2)

/-- Takes out the table that a header names, which so far may only have been on the way to others. -/
def reopen (entries : Entries) (path : List Key) (key : Key) : Option (Entries × Entries) :=
  let act (_ : TableKind) (inner : Entries) : Option (Entries × Entries) :=
    match get? inner key.name with
    | none => some ([], inner)
    | some (_, .table kind old) =>
      if kind.implicit && !kind.dotted then some (old, erase inner key.name) else none
    | some _ => none
  atPath false act path {} entries

/-- Puts a table where its header says. -/
def place (entries : Entries) (path : List Key) (key : Key) (mark : Mark) (table : Entries) : Option Entries :=
  let act (_ : TableKind) (inner : Entries) : Option (Unit × Entries) :=
    if (get? inner key.name).isSome then none
    else some ((), inner ++ [(key, mark, .table {} table)])
  (atPath false act path {} entries).map (·.2)

/-- Puts a table at the end of the array of tables that its header names. -/
def append (entries : Entries) (path : List Key) (key : Key) (mark : Mark) (table : Entries) : Option Entries :=
  let act (_ : TableKind) (inner : Entries) : Option (Unit × Entries) :=
    match get? inner key.name with
    | none => some ((), inner ++ [(key, mark, .tables [(mark, .table {} table)])])
    | some (_, .tables items) =>
      some ((), replace inner key.name (.tables (items ++ [(mark, .table {} table)])))
    | some _ => none
  (atPath false act path {} entries).map (·.2)

end PostMortem.Toml.Entries
