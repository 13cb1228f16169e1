import PostMortem.Text.Hex

/-! # Fault identifiers

A fault identifier is a 32-bit number. One range is reserved; two numbers in it are well known: a failed checked
operation and a violated assertion. The offsets from the start of the range are part of the wire contract.
-/
set_option autoImplicit false

namespace PostMortem

/-- The number that says what kind of fault happened. -/
structure FaultId where
  raw : UInt32
deriving DecidableEq, Repr, Inhabited

namespace FaultId

def rangeStart : FaultId := ⟨0x4000⟩

def sdkError : FaultId := ⟨rangeStart.raw + 1⟩

def sdkAssert : FaultId := ⟨rangeStart.raw + 2⟩

/-- Identifiers are ordered by their numbers. -/
instance : Ord FaultId := ⟨fun a b => compare a.raw b.raw⟩

def name? (id : FaultId) : Option String :=
  if id = sdkError then some "SDK_ERROR"
  else if id = sdkAssert then some "SDK_ASSERT"
  else none

/-- The distance from the start of the reserved range, modulo `2 ^ 32`. -/
def rangeOffset (id : FaultId) : UInt32 := id.raw - rangeStart.raw

/-- The identifier as it is shown: hexadecimal, without leading zeros. -/
def text (id : FaultId) : String := Text.Hex.text id.raw.toNat

end FaultId

end PostMortem
