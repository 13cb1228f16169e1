import PostMortem.Toml.Value

/-! # Documents

A text is read in two passes. The first finds its statements; the second takes them up one by one and puts together the
root table. What the first finds wrong anywhere in the text comes before all that the second finds wrong.

* `Builder`: the root table under construction, and the table that assignments go to. Whether a table may be where its
  header says is decided at the header, for an array of tables only when its assignments are through.
* `document`: the entries of the root table.
-/
set_option autoImplicit false

namespace PostMortem.Toml

/-! ## The root table -/

/-- A header that is in force: what it names, and where it stands. -/
structure Header where
  repeated : Bool
  path : List Key
  key : Key
  mark : Mark

/-- The root table under construction. Assignments go to the current table, which is put into the root table when the
next header comes; before the first header it is the root table itself. -/
structure Builder where
  root : Entries := []
  header : Option Header := none
  current : Entries := []

namespace Builder

/-- The root table with the current table in it. -/
def close (b : Builder) : Option Entries :=
  match b.header with
  | none => some b.current
  | some h =>
    if h.repeated then b.root.append h.path h.key h.mark b.current
    else b.root.place h.path h.key h.mark b.current

def add (b : Builder) : Statement → Except DocumentError Builder
  | .assignment name mark value => do
    let (path, key) ← name.keys
    let node ← value.node
    let current ← need (b.current.assign {} path key mark node)
    .ok { b with current := current }
  | .header repeated name mark => do
    let root ← need b.close
    let (path, key) ← name.keys
    let header := some ⟨repeated, path, key, mark⟩
    if repeated then .ok ⟨root, header, []⟩
    else
      let (current, root) ← need (root.reopen path key)
      .ok ⟨root, header, current⟩

end Builder

/-- The entries of the root table of a document. -/
def document (text : List Char) : Except DocumentError Entries := do
  let statements ← need (statements? text)
  let builder ← statements.foldlM Builder.add {}
  need builder.close

end PostMortem.Toml
