import PostMortem.Text.Hex

/-! # Status codes

The value that a fallible operation gives back. Zero is the only success.
-/
set_option autoImplicit false

namespace PostMortem

/-- An opaque status value. -/
structure StatusCode where
  raw : UInt32
deriving DecidableEq, Repr

namespace StatusCode

/-- The only status that is not a failure. -/
def success : StatusCode := ⟨0⟩

/-- The code that a failed condition carries. -/
def neutral : StatusCode := ⟨0⟩

instance : Inhabited StatusCode := ⟨success⟩

def isSuccess (code : StatusCode) : Bool := code == success

/-- The code as it is shown: hexadecimal, at least two digits. -/
def text (code : StatusCode) : String := Text.Hex.paddedText 2 code.raw.toNat

end StatusCode

end PostMortem
