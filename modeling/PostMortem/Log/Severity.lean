/-! # Severities

How serious a log entry is, and how much a log is to show. `Severity.admits` is the order in which a chosen level lets
entries through: the level itself and all that is more severe.
-/
set_option autoImplicit false

namespace PostMortem

/-- The severities, the least serious first. -/
inductive Severity
  | trace | debug | info | warn | error
deriving DecidableEq, Repr

namespace Severity

def all : List Severity := [trace, debug, info, warn, error]

/-- The name in a configuration. -/
def name : Severity → String
  | trace => "trace"
  | debug => "debug"
  | info => "info"
  | warn => "warn"
  | error => "error"

/-- The name in a log line. -/
def label : Severity → String
  | trace => "TRACE"
  | debug => "DEBUG"
  | info => "INFO"
  | warn => "WARN"
  | error => "ERROR"

instance : Inhabited Severity := ⟨info⟩

def ofName? (s : String) : Option Severity := all.find? fun severity => severity.name == s

def rank : Severity → Nat
  | trace => 0
  | debug => 1
  | info => 2
  | warn => 3
  | error => 4

/-- Whether a log at level `level` shows an entry of this severity. -/
def admits (level severity : Severity) : Bool := level.rank ≤ severity.rank

end Severity

end PostMortem
