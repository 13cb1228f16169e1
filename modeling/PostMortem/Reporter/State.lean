import PostMortem.Report.Layout
import PostMortem.Store.Mapped
import PostMortem.Store.Region

/-! # The state of a reporter

A reporter has a handler that receives faults, a sink that they are reported through, and a store that they are kept
in; it lives beside retained regions and a file tree. What it does shows in four channels: log entries, lines printed,
faults delivered to handlers, and threads of steps parked for good.

* `Reporter`: the state.
* `Reporter.tell`, `Reporter.print`, `Reporter.deliver`: one more item in a channel.
-/
set_option autoImplicit false

namespace PostMortem

/-- A retained region: the one that every process has, or one under a name. -/
inductive RegionId
  | processWide
  | named (name : String)
deriving DecidableEq, Repr

/-- A store that fault records can be kept in. -/
inductive Store
  /-- A retained region. -/
  | region (id : RegionId)
  /-- A record file held open. -/
  | file (record : MappedRecord)
  /-- A device whose saves always fail in the same way. -/
  | failing (error : StoreError)
  /-- A store whose saves first raise a fault of their own, on another thread, and then keep the record in a region. -/
  | reentrant (id : RegionId) (pc : UInt32) (event : FaultEvent)
deriving DecidableEq, Repr

/-- Who receives a fault. -/
inductive Handler
  /-- Reports the fault through the sink, then persists it and halts. -/
  | standard
  /-- Notes the fault under a name and unwinds the thread. -/
  | recorder (name : String)
  /-- Notes the fault under a name and hands it on to the standard handler, the program counter one higher. -/
  | forwarder (name : String)
deriving DecidableEq, Repr

/-- A fault as a handler received it. -/
structure Delivery where
  handler : String
  pc : UInt32
  event : FaultEvent
deriving DecidableEq, Repr

/-- How a step that may fault ends. -/
inductive Ending (α : Type)
  | returned (value : α)
  | halted
  | unwound
deriving DecidableEq, Repr

/-- What is fixed when a program is built and placed in memory. -/
structure Build where
  /-- Whether failed checks carry their call site. -/
  capturesSites : Bool := true
  /-- Where the payload of a fault lives. -/
  payloadAddress : UInt64
deriving DecidableEq, Repr

/-- The state of a reporter and of what it lives beside. -/
structure Reporter where
  handler : Handler := .standard
  sink : SinkKind := default
  store : Option Store := none
  /-- Whether the store is in use by a save. -/
  storeBusy : Bool := false
  /-- Whether a fault has been handled. -/
  faulted : Bool := false
  regions : RegionId → Region := fun _ => .empty
  files : FileTree
  /-- How many threads of steps have halted. The thread of a fault that a save raises halts too, but is not counted. -/
  parked : Nat := 0
  log : List LogEntry := []
  printed : Report := []
  delivered : List Delivery := []

namespace Reporter

def tell (r : Reporter) (entry : LogEntry) : Reporter := { r with log := r.log ++ [entry] }

def print (r : Reporter) (report : Report) : Reporter := { r with printed := r.printed ++ report }

def deliver (r : Reporter) (handler : String) (pc : UInt32) (event : FaultEvent) : Reporter :=
  { r with delivered := r.delivered ++ [⟨handler, pc, event⟩] }

def quiet (r : Reporter) : Reporter := { r with log := [], printed := [], delivered := [] }

/-- The reporter in which a region has other words. -/
def setRegion (r : Reporter) (id : RegionId) (region : Region) : Reporter :=
  { r with regions := fun other => if other = id then region else r.regions other }

def saveRegion (r : Reporter) (id : RegionId) (record : FaultRecord) : Reporter :=
  r.setRegion id ((r.regions id).save record)

end Reporter

end PostMortem
