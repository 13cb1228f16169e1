import PostMortem.Log.Severity

/-! # Configuration

What a configuration selects: the log level and the service name, the sink that a fault is reported through, and the
backend that its record is kept in. Everything but the service name has a default.
-/
set_option autoImplicit false

namespace PostMortem

/-! ## Sinks -/

/-- Where the report of a fault goes. -/
inductive SinkKind
  | log | text | both | silent
deriving DecidableEq, Repr

namespace SinkKind

/-- All sinks, in the order of their codes. -/
def all : List SinkKind := [log, text, both, silent]

instance : Inhabited SinkKind := ⟨log⟩

/-- The code that the selected sink is kept as. -/
def code : SinkKind → UInt8
  | log => 0
  | text => 1
  | both => 2
  | silent => 3

def ofCode? (code : UInt8) : Option SinkKind := all[code.toNat]?

/-- The name in a configuration. -/
def name : SinkKind → String
  | log => "log"
  | text => "text"
  | both => "both"
  | silent => "none"

/-- The name in a log field. -/
def label : SinkKind → String
  | log => "Log"
  | text => "Text"
  | both => "Both"
  | silent => "Silent"

def ofName? (s : String) : Option SinkKind := all.find? fun sink => sink.name == s

/-- Whether the structured log receives the report. -/
def logs (sink : SinkKind) : Bool := sink == log || sink == both

/-- Whether standard output receives the report. -/
def prints (sink : SinkKind) : Bool := sink == text || sink == both

end SinkKind

/-! ## Backends -/

/-- Where the record of a fault is kept. -/
inductive Backend
  | retained | file
deriving DecidableEq, Repr

namespace Backend

def all : List Backend := [retained, file]

instance : Inhabited Backend := ⟨retained⟩

/-- The name in a configuration. -/
def name : Backend → String
  | retained => "retained"
  | file => "file"

/-- The name in a log field. -/
def label : Backend → String
  | retained => "Retained"
  | file => "File"

def ofName? (s : String) : Option Backend := all.find? fun backend => backend.name == s

end Backend

/-! ## Sections -/

/-- The path of the record file when none is configured. -/
def defaultRecordPath : String := "/var/lib/fault/record.bin"

/-- The fields common to all services. -/
structure SharedConfig where
  logLevel : Severity := default
  serviceName : String
deriving DecidableEq, Repr

/-- How faults are reported. -/
structure ReportConfig where
  sink : SinkKind := default
deriving DecidableEq, Repr

/-- How fault records are kept. -/
structure StoreConfig where
  backend : Backend := default
  path : Option String := none
deriving DecidableEq, Repr

/-- The record file: the configured one, else the default one. -/
def StoreConfig.recordPath (config : StoreConfig) : String := config.path.getD defaultRecordPath

/-- A complete configuration. -/
structure FaultConfig where
  shared : SharedConfig
  report : ReportConfig := {}
  store : StoreConfig := {}
deriving DecidableEq, Repr

end PostMortem
