import PostMortem.Fault.Event

/-! # Fault records

The machine words that outlive a fault: identifier, program counter, info word and error code. The error code rides
along because the info word is an address that means nothing once the faulting process is gone.
-/
set_option autoImplicit false

namespace PostMortem

/-- The words persisted for a fault. -/
structure FaultRecord where
  id : FaultId
  pc : UInt32
  info : UInt64
  code : StatusCode
deriving DecidableEq, Repr

namespace FaultRecord

/-- The words that describe a fault whose payload, if it has one, lives at `address`. The code is 0 unless the event
is an error. -/
def capture (address : UInt64) (pc : UInt32) (event : FaultEvent) : FaultRecord where
  id := event.id
  pc := pc
  info := event.infoWord address
  code := event.errorCode?.getD ⟨0⟩

/-- The persisted error code, present exactly when the identifier is that of an error. -/
def errorCode? (record : FaultRecord) : Option StatusCode :=
  if record.id = .sdkError then some record.code else none

end FaultRecord

end PostMortem
