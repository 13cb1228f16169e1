import PostMortem.Config.Load
import PostMortem.Reporter.Check
import PostMortem.Reporter.Install

/-! # Runs of a reporter

A program that uses a reporter is a row of steps: checks, escalations, changes of handler, sink and store,
installations, reports, and operations on regions and files beside it. Steps that may fault run on threads of their
own, so that a halted one does not keep the others from going on.

* `Reporter.step`: one step and its answer.
* `Reporter.observe`: one step, with what it left in each channel.
* `Reporter.run`: step after step.
-/
set_option autoImplicit false

namespace PostMortem

namespace Reporter

/-- An operation on a store. -/
inductive StoreCall
  | load
  | save (record : FaultRecord)
  | clear
deriving DecidableEq, Repr

/-- A choice of store. -/
inductive StoreChoice
  | region (id : RegionId)
  | file (path : String)
  | failing (error : StoreError)
  | reentrant (id : RegionId) (pc : UInt32) (event : FaultEvent)
deriving DecidableEq, Repr

/-- One step of a program. -/
inductive Step (α : Type)
  | checkResult (code : StatusCode) (site : CallSite)
  | checkBool (condition : Bool) (site : CallSite)
  | checkAssert (condition : Bool) (site : CallSite)
  | orFault (result : Except StatusCode α) (site : CallSite)
  | handleCheckedResult (code : StatusCode) (site : CallSite)
  | handleCheckedResultMinimal (code : StatusCode)
  | handleAssert (site : CallSite)
  | handleAssertMinimal
  | escalate (pc : UInt32) (event : FaultEvent)
  | standardHandler (pc : UInt32) (event : FaultEvent)
  | handleFault (pc : UInt32) (event : FaultEvent)
  | setHandler (handler : Handler)
  | setSink (sink : SinkKind)
  | sink
  | faulted
  | setStore (choice : StoreChoice)
  | install (document : String)
  | log (pc : UInt32) (event : FaultEvent)
  | print (pc : UInt32) (event : FaultEvent)
  | region (id : RegionId) (call : StoreCall)
  | file (path : String) (call : StoreCall)
  | remove (path : String)
  | contents (path : String)
  | unpark

/-- The answer to a step. -/
inductive Answer (α : Type)
  | nothing
  | ended (ending : Ending (Option α))
  | sink (kind : SinkKind)
  | flag (value : Bool)
  | stored (result : Except StoreError (Option FaultRecord))
  | refused (error : ConfigError)
  | bytes (value : Option (List UInt8))
  | count (value : Nat)

/-- What a step shows. -/
structure Observation (α : Type) where
  answer : Answer α
  printed : Report
  log : List LogEntry
  delivered : List Delivery

/-! ## Steps that may fault -/

/-- Ends the thread of a step: one that halts is parked. -/
def endThread {α β : Type} (value : β → Option α) : Ending β × Reporter → Answer α × Reporter
  | (.returned b, r) => (.ended (.returned (value b)), r)
  | (.halted, r) => (.ended .halted, { r with parked := r.parked + 1 })
  | (.unwound, r) => (.ended .unwound, r)

/-- The end of a step that has no value. -/
def endCheck {α : Type} : Ending Unit × Reporter → Answer α × Reporter := endThread fun _ => none

/-! ## Steps on stores -/

/-- The outcome of an operation that gives nothing. -/
def done {α : Type} : Except StoreError Unit → Answer α
  | .ok () => .stored (.ok none)
  | .error e => .stored (.error e)

def setStore {α : Type} (choice : StoreChoice) (r : Reporter) : Answer α × Reporter :=
  match choice with
  | .region id => (.stored (.ok none), { r with store := some (.region id) })
  | .file path =>
    let (result, r) := r.openStore path
    (done result, r)
  | .failing error => (.stored (.ok none), { r with store := some (.failing error) })
  | .reentrant id pc event => (.stored (.ok none), { r with store := some (.reentrant id pc event) })

def callRegion {α : Type} (id : RegionId) (call : StoreCall) (r : Reporter) : Answer α × Reporter :=
  match call with
  | .load => (.stored (.ok (r.regions id).read), r)
  | .save record => (.stored (.ok none), r.saveRegion id record)
  | .clear => (.stored (.ok none), r.setRegion id (r.regions id).clear)

/-- Opens a record file that exists and does something with it. -/
def callFile {α : Type} (path : String) (call : StoreCall) (r : Reporter) : Answer α × Reporter :=
  let (result, files) := MappedRecord.openExisting path r.files
  let r := { r with files := files, log := r.log ++ MappedRecord.openLog path result }
  match result with
  | .error e => (.stored (.error e), r)
  | .ok m =>
    match call with
    | .load => (.stored (.ok (m.load r.files)), r)
    | .save record => (.stored (.ok none), { r with files := m.save record r.files })
    | .clear => (.stored (.ok none), { r with files := m.clear r.files })

/-- Installs from the text of a configuration, which must be accepted before anything changes. -/
def installText {α : Type} (document : String) (r : Reporter) : Answer α × Reporter :=
  match FaultConfig.ofText document with
  | .error e => (.refused e, r)
  | .ok config =>
    let (result, r) := r.install config
    (done result, r)

/-! ## All steps -/

/-- One step: its answer, and the reporter after it. -/
def step {α : Type} (build : Build) (r : Reporter) : Step α → Answer α × Reporter
  | .checkResult code site => endCheck (r.checkResult build code site)
  | .checkBool condition site => endCheck (r.checkBool build condition site)
  | .checkAssert condition site => endCheck (r.checkAssert build condition site)
  | .orFault result site => endThread some (r.orFault build result site)
  | .handleCheckedResult code site => endCheck (r.handleCheckedResult build code site)
  | .handleCheckedResultMinimal code => endCheck (r.handleCheckedResultMinimal build code)
  | .handleAssert site => endCheck (r.handleAssert build site)
  | .handleAssertMinimal => endCheck (r.handleAssertMinimal build)
  | .escalate pc event => endCheck (r.escalate build.payloadAddress pc event)
  | .standardHandler pc event => endCheck (.halted, r.standardHandler build.payloadAddress pc event)
  | .handleFault pc event => endCheck (.halted, r.handleFault build.payloadAddress pc event)
  | .setHandler handler => (.nothing, { r with handler := handler })
  | .setSink sink => (.nothing, { r with sink := sink })
  | .sink => (.sink r.sink, r)
  | .faulted => (.flag r.faulted, r)
  | .setStore choice => r.setStore choice
  | .install document => r.installText document
  | .log pc event => (.nothing, r.logFault pc event)
  | .print pc event => (.nothing, r.printFault build.payloadAddress pc event)
  | .region id call => r.callRegion id call
  | .file path call => r.callFile path call
  | .remove path =>
    match r.files.removeFile (.parse path) with
    | .ok files => (.flag true, { r with files := files })
    | .error _ => (.flag false, r)
  | .contents path => (.bytes (r.files.read (.parse path)).toOption, r)
  | .unpark => (.count r.parked, r)

/-- One step, with what it alone left in each channel. -/
def observe {α : Type} (build : Build) (r : Reporter) (s : Step α) : Observation α × Reporter :=
  let (answer, after) := r.quiet.step build s
  (⟨answer, after.printed, after.log, after.delivered⟩, after.quiet)

/-- Step after step: what each shows, and the reporter at the end. -/
def run {α : Type} (build : Build) (r : Reporter) : List (Step α) → List (Observation α) × Reporter
  | [] => ([], r)
  | first :: rest =>
    let (shown, r) := r.observe build first
    let (more, r) := r.run build rest
    (shown :: more, r)

end Reporter

end PostMortem
