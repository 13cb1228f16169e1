import PostMortem.Fault.Identifier
import PostMortem.Fault.Status

/-! # Fault events

An event carries its identifier and the matching payload in one value, so that the payload of an error can never be
read as that of an assertion. An event with an unknown identifier has one opaque word instead, which nothing decodes:
given one of the well-known identifiers it still is an unknown event.

* `FaultEvent.infoWord`: the payload's address for the known kinds, the opaque word otherwise. Where a payload lives
  is decided by the caller, so the address is a parameter.
-/
set_option autoImplicit false

namespace PostMortem

/-- The program counter reported when the caller cannot capture one. -/
def pcUnavailable : UInt32 := 0

/-- The place in the source text where a check stands. -/
structure CallSite where
  line : UInt32
  file : String
deriving DecidableEq, Repr

/-- A line and a file, as they are reported. -/
structure Location where
  line : UInt16
  file : String
deriving DecidableEq, Repr

/-- The payload of a failed checked operation. The line is 0 when it was not captured. -/
structure ErrorInfo where
  line : UInt16
  file : Option String
  code : StatusCode
deriving DecidableEq, Repr

/-- The payload of a violated assertion. The line is 0 when it was not captured. -/
structure AssertInfo where
  line : UInt16
  file : Option String
deriving DecidableEq, Repr

/-- Line numbers past `65535` stay there. -/
def clampLine (line : UInt32) : UInt16 :=
  if line ≤ 65535 then line.toUInt16 else 65535

namespace ErrorInfo

/-- The payload of a failure observed at a call site. -/
def ofSite (code : StatusCode) (site : CallSite) : ErrorInfo := ⟨clampLine site.line, some site.file, code⟩

/-- The payload of a failure without a location. -/
def bare (code : StatusCode) : ErrorInfo := ⟨0, none, code⟩

/-- The location, present exactly when a file name was captured. -/
def location? (info : ErrorInfo) : Option Location := info.file.map fun file => ⟨info.line, file⟩

end ErrorInfo

namespace AssertInfo

/-- The payload of an assertion violated at a call site. -/
def ofSite (site : CallSite) : AssertInfo := ⟨clampLine site.line, some site.file⟩

/-- The payload of a violated assertion without a location. -/
def bare : AssertInfo := ⟨0, none⟩

/-- The location, present exactly when a file name was captured. -/
def location? (info : AssertInfo) : Option Location := info.file.map fun file => ⟨info.line, file⟩

end AssertInfo

/-- A captured fault. -/
inductive FaultEvent
  | error (info : ErrorInfo)
  | assertion (info : AssertInfo)
  | unknown (id : FaultId) (info : UInt64)
deriving DecidableEq, Repr

namespace FaultEvent

def id : FaultEvent → FaultId
  | error _ => .sdkError
  | assertion _ => .sdkAssert
  | unknown id _ => id

/-- Whether the event has a payload that lives at an address. -/
def hasPayload : FaultEvent → Bool
  | unknown .. => false
  | _ => true

/-- The word that accompanies a fault: the address of its payload, or the opaque word of an unknown one. -/
def infoWord (address : UInt64) : FaultEvent → UInt64
  | unknown _ info => info
  | _ => address

def errorCode? : FaultEvent → Option StatusCode
  | error info => some info.code
  | _ => none

def location? : FaultEvent → Option Location
  | error info => info.location?
  | assertion info => info.location?
  | unknown .. => none

end FaultEvent

end PostMortem
