import PostMortem.Report.Diagnostic
import PostMortem.Reporter.State

/-! # Escalation

A fault goes to the installed handler. The standard handler reports it through the sink and then persists it: the
record goes to the store if there is one, it is not in use, and its save succeeds; else to the process-wide region.
After that the thread is parked for good. Only a failed save leaves a warning.

* `Reporter.handleFault`: persists a fault; the thread that does so never goes on.
* `Reporter.report`: shows a fault through the sink.
* `Reporter.escalate`: hands a fault to the installed handler.
-/
set_option autoImplicit false

namespace PostMortem.Reporter

/-! ## Persisting -/

/-- The fault has been handled, from now on and for ever. -/
def enterFault (r : Reporter) : Reporter := { r with faulted := true }

/-- The last log entry of a thread that halts. -/
def haltEntry (record : FaultRecord) : LogEntry :=
  ⟨.debug, "Fault persisted, halting", [.id record.id, .pc record.pc]⟩

/-- Handles a fault while the store is in use: the record goes to the process-wide region. -/
def handleWhileBusy (address : UInt64) (pc : UInt32) (event : FaultEvent) (r : Reporter) : Reporter :=
  let record := FaultRecord.capture address pc event
  (r.enterFault.saveRegion .processWide record).tell (haltEntry record)

def saveIn (address : UInt64) (record : FaultRecord) (r : Reporter) : Store → Except StoreError Unit × Reporter
  | .region id => (.ok (), r.saveRegion id record)
  | .file m => (.ok (), { r with files := m.save record r.files })
  | .failing e => (.error e, r)
  | .reentrant id pc event => (.ok (), (r.handleWhileBusy address pc event).saveRegion id record)

/-- What a failed save leaves in the log. -/
def saveWarning (e : StoreError) : LogEntry := ⟨.warn, "Failed to persist fault record: " ++ e.message, []⟩

/-- Persists a record: in the store if that can be done, else in the process-wide region. -/
def persist (address : UInt64) (record : FaultRecord) (r : Reporter) : Reporter :=
  if r.storeBusy then r.saveRegion .processWide record
  else
    match r.store with
    | none => r.saveRegion .processWide record
    | some store =>
      let (result, saved) := { r with storeBusy := true }.saveIn address record store
      let saved := { saved with storeBusy := false }
      match result with
      | .ok () => saved
      | .error e => (saved.tell (saveWarning e)).saveRegion .processWide record

/-- Handles a fault: persists it, and halts the thread. -/
def handleFault (address : UInt64) (pc : UInt32) (event : FaultEvent) (r : Reporter) : Reporter :=
  let record := FaultRecord.capture address pc event
  (r.enterFault.persist address record).tell (haltEntry record)

/-! ## Reporting -/

/-- The log entry of a fault, if it leaves one. -/
def logFault (pc : UInt32) (event : FaultEvent) (r : Reporter) : Reporter :=
  match LogEntry.ofFault? pc event with
  | some entry => r.tell entry
  | none => r

/-- The report of a fault on standard output. -/
def printFault (address : UInt64) (pc : UInt32) (event : FaultEvent) (r : Reporter) : Reporter :=
  r.print (.ofFault address pc event)

def report (address : UInt64) (pc : UInt32) (event : FaultEvent) (r : Reporter) : Reporter :=
  let logged := if r.sink.logs then r.logFault pc event else r
  if r.sink.prints then logged.printFault address pc event else logged

/-- The standard handler: shows a fault and handles it. -/
def standardHandler (address : UInt64) (pc : UInt32) (event : FaultEvent) (r : Reporter) : Reporter :=
  (r.report address pc event).handleFault address pc event

/-! ## Delivery -/

/-- Hands a fault to the installed handler. It never returns a value. -/
def escalate {α : Type} (address : UInt64) (pc : UInt32) (event : FaultEvent) (r : Reporter) : Ending α × Reporter :=
  match r.handler with
  | .standard => (.halted, r.standardHandler address pc event)
  | .recorder name => (.unwound, r.deliver name pc event)
  | .forwarder name => (.halted, (r.deliver name pc event).standardHandler address (pc + 1) event)

end PostMortem.Reporter
