import PostMortem.Report.Line

/-! # Report layouts

* `Report.header`: the four lines that every report of a fault begins with.
* `Report.ofFault`: the report of a live fault, from its event: header, location, error code.
* `Report.ofRecord?`: the report of a persisted record, from its words: header, classification, error code.
-/
set_option autoImplicit false

namespace PostMortem.Report

/-- The lines common to all reports of a fault. -/
def header (id : FaultId) (pc : UInt32) (info : UInt64) : Report :=
  [.title, .identifier id, .programCounter pc, .information info]

/-- The lines of a location, none when it was not captured. -/
def location : Option Location → Report
  | some place => [.lineNumber place.line, .fileName place.file]
  | none => []

/-- The report of a fault whose payload, if it has one, lives at `address`. An unknown fault has the header alone. -/
def ofFault (address : UInt64) (pc : UInt32) (event : FaultEvent) : Report :=
  header event.id pc (event.infoWord address) ++
    match event with
    | .error info => location info.location? ++ [.errorCode info.code]
    | .assertion info => location info.location?
    | .unknown .. => []

/-- The line of an error code, none when there is no code. -/
def errorCode : Option StatusCode → Report
  | some code => [.errorCode code]
  | none => []

/-- The report of a persisted record, or the notice that there is none. -/
def ofRecord? : Option FaultRecord → Report
  | none => [.noRecord]
  | some record =>
    header record.id record.pc record.info ++
      .faultType (record.id.name?.getD "unknown") :: errorCode record.errorCode?

end PostMortem.Report
