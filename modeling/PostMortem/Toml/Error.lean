/-! # Why a text is no document

* `DocumentError`: the causes.
* `need`: what has to be there, or the document is malformed.
-/
set_option autoImplicit false

namespace PostMortem.Toml

/-- Why a text is no document. -/
inductive DocumentError
  /-- It breaks a rule of the language. -/
  | malformed
  /-- It has a path of more keys than a path may have. -/
  | pathTooLong
deriving DecidableEq, Repr

/-- What is there. If nothing is, the document is malformed. -/
def need {α : Type} : Option α → Except DocumentError α
  | some a => .ok a
  | none => .error .malformed

end PostMortem.Toml
