import PostMortem.Toml.Error
import PostMortem.Toml.Outline
import PostMortem.Toml.Scalar
import PostMortem.Toml.Table

/-! # What outlines stand for

The keys and scalars of an outline are looked at in the order in which they are written, and so are the rules about the
names of a table in braces; the first that is broken decides what is wrong.

* `Name.keys`: the keys of a name of at most `pathLimit` keys.
* `Outline.node`: the value that an outline stands for.
-/
set_option autoImplicit false

namespace PostMortem.Toml

/-! ## Keys -/

def isBare (c : Char) : Bool := c.isAlphanum || c == '-' || c == '_'

/-- The key that a piece of a name stands for: a string on one line, or a word of bare characters. -/
def Lexeme.key? (lexeme : Lexeme) : Option Key :=
  if lexeme.text.head?.any isQuote then
    match shortString? lexeme.text with
    | some (name, []) => some ⟨name, lexeme.mark⟩
    | _ => none
  else if !lexeme.text.isEmpty && lexeme.text.all isBare then some ⟨String.ofList lexeme.text, lexeme.mark⟩
  else none

/-- The most keys that a name may have. -/
def pathLimit : Nat := 80

/-- The keys of a name: those on the way, and the last. All have to be well formed before they are counted. -/
def Name.keys (name : Name) : Except DocumentError (List Key × Key) := do
  let path ← name.path.mapM fun lexeme => need lexeme.key?
  let last ← need name.last.key?
  if pathLimit < path.length + 1 then .error .pathTooLong else .ok (path, last)

/-! ## Values -/

mutual

/-- The value that an outline stands for. -/
def Outline.node : Outline → Except DocumentError Node
  | .scalar text => (need (Scalar.ofText? text)).map .scalar
  | .array items => (itemNodes items).map .array
  | .braces entries => (assignAll [] entries).map (.table { braced := true })

def itemNodes : List (Mark × Outline) → Except DocumentError (List (Mark × Node))
  | [] => .ok []
  | (mark, item) :: rest => do
    let node ← item.node
    let nodes ← itemNodes rest
    .ok ((mark, node) :: nodes)

/-- The entries of a table in braces, and those before them. -/
def assignAll (entries : Entries) : List (Name × Mark × Outline) → Except DocumentError Entries
  | [] => .ok entries
  | (name, mark, value) :: rest => do
    let (path, key) ← name.keys
    let node ← value.node
    let entries ← need (entries.assign { braced := true } path key mark node)
    assignAll entries rest

end

end PostMortem.Toml
