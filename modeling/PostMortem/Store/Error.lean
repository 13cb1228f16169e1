import PostMortem.FileTree.Error

/-! # Store errors

Saving, loading and clearing a record fail because the record file has a size that is not the right one, or because
of an input or output error.
-/
set_option autoImplicit false

namespace PostMortem

/-- Why a record could not be saved, loaded or cleared. -/
inductive StoreError
  | invalidSize (size expected : Nat)
  | io (cause : IoError)
deriving DecidableEq, Repr

def StoreError.message : StoreError → String
  | invalidSize size expected =>
    "Invalid record file size: " ++ toString size ++ " bytes (expected " ++ toString expected ++ ")"
  | io cause => "IO error: " ++ cause.message

end PostMortem
