import PostMortem.Config.Basic
import PostMortem.Fault.Record

/-! # Log entries

A log entry has a severity, a message and structured fields.
-/
set_option autoImplicit false

namespace PostMortem

/-- A structured field of a log entry. -/
inductive LogField
  | pc (value : UInt32)
  | id (value : FaultId)
  | line (value : UInt16)
  | file (value : String)
  | code (value : StatusCode)
  | sink (value : SinkKind)
  | backend (value : Backend)
deriving DecidableEq, Repr

/-- One event of the structured log. -/
structure LogEntry where
  severity : Severity
  message : String
  fields : List LogField := []
deriving DecidableEq, Repr

/-- The entries that a log at this level shows, in order. -/
def Severity.shown (level : Severity) (entries : List LogEntry) : List LogEntry :=
  entries.filter fun entry => level.admits entry.severity

end PostMortem
