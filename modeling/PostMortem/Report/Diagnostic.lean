import PostMortem.Log.Entry

/-! # Fault diagnostics in the log

* `LogEntry.ofFault?`: the log entry of a fault: program counter, location if captured, code of an error. An unknown
  fault leaves no entry.
-/
set_option autoImplicit false

namespace PostMortem.LogEntry

/-- The fields of a location, none when it was not captured. -/
def locationFields : Option Location → List LogField
  | some place => [.line place.line, .file place.file]
  | none => []

def ofFault? (pc : UInt32) : FaultEvent → Option LogEntry
  | .assertion info =>
    some ⟨.error, "*** ASSERTION FAILED ***", .pc pc :: locationFields info.location?⟩
  | .error info =>
    some ⟨.error, "*** APPLICATION ERROR ***", .pc pc :: locationFields info.location? ++ [.code info.code]⟩
  | .unknown .. => none

end PostMortem.LogEntry
