import PostMortem.Store.Mapped

/-! # Sessions on record files

A session is a file tree together with record files that are held open under names. Its steps open, use and close
record files, and change the tree around them, in any order.

* `MappedSession.step`: one step, with its answer and what it leaves in the log.
* `MappedSession.run`: step after step.
-/
set_option autoImplicit false

namespace PostMortem

/-- A file tree, and the record files held open under names. -/
structure MappedSession where
  files : FileTree
  handles : List (String × MappedRecord) := []

namespace MappedSession

/-- One step of a session. -/
inductive Step
  | openOrCreate (handle path : String)
  | openExisting (handle path : String)
  | save (handle : String) (record : FaultRecord)
  | load (handle : String)
  | clear (handle : String)
  | path (handle : String)
  | close (handle : String)
  | contents (path : String)
  | replace (path : String) (bytes : List UInt8)
  | overwrite (path : String) (offset : Nat) (bytes : List UInt8)
  | makeDirectory (path : String)
  | remove (path : String)
  | rename (path target : String)
deriving DecidableEq, Repr

/-- The answer to a step. -/
inductive Answer
  | nothing
  | flag (value : Bool)
  | path (value : String)
  | bytes (value : Option (List UInt8))
  | stored (result : Except StoreError (Option FaultRecord))
  | notOpen

/-- The record file held open under a name. -/
def handle? (s : MappedSession) (name : String) : Option MappedRecord := s.handles.lookup name

/-- The session in which nothing is held open under a name. -/
def release (s : MappedSession) (name : String) : MappedSession :=
  { s with handles := s.handles.filter fun entry => entry.1 != name }

/-- Takes up the outcome of opening a file: success replaces what was held under the name, failure keeps it. -/
def hold (s : MappedSession) (name path : String) (outcome : Except StoreError MappedRecord × FileTree) :
    Answer × List LogEntry × MappedSession :=
  let log := MappedRecord.openLog path outcome.1
  match outcome with
  | (.ok m, files) => (.stored (.ok none), log, ⟨files, (name, m) :: (s.release name).handles⟩)
  | (.error e, files) => (.stored (.error e), log, { s with files := files })

/-- Takes up the outcome of a change to the tree. -/
def change (s : MappedSession) : Except IoError FileTree → Bool × MappedSession
  | .ok files => (true, { s with files := files })
  | .error _ => (false, s)

/-- Does something with the record file held open under a name. -/
def withHandle (s : MappedSession) (name : String) (use : MappedRecord → Answer × FileTree) :
    Answer × List LogEntry × MappedSession :=
  match s.handle? name with
  | none => (.notOpen, [], s)
  | some m =>
    let (answer, files) := use m
    (answer, [], { s with files := files })

/-- One step: its answer, what it logs, and the session after it. -/
def step (s : MappedSession) : Step → Answer × List LogEntry × MappedSession
  | .openOrCreate name path => s.hold name path (MappedRecord.openOrCreate path s.files)
  | .openExisting name path => s.hold name path (MappedRecord.openExisting path s.files)
  | .save name record => s.withHandle name fun m => (.stored (.ok none), m.save record s.files)
  | .load name => s.withHandle name fun m => (.stored (.ok (m.load s.files)), s.files)
  | .clear name => s.withHandle name fun m => (.stored (.ok none), m.clear s.files)
  | .path name => s.withHandle name fun m => (.path m.path, s.files)
  | .close name => (.flag (s.handle? name).isSome, [], s.release name)
  | .contents path => (.bytes (s.files.read (.parse path)).toOption, [], s)
  | .replace path bytes => (.nothing, [], (s.change (s.files.replace (.parse path) bytes)).2)
  | .overwrite path offset bytes => (.nothing, [], (s.change (s.files.overwrite (.parse path) offset bytes)).2)
  | .makeDirectory path =>
    let (done, s) := s.change (s.files.makeDirectory (.parse path))
    (.flag done, [], s)
  | .remove path =>
    let (done, s) := s.change (s.files.removeFile (.parse path))
    (.flag done, [], s)
  | .rename path target =>
    let (done, s) := s.change (s.files.rename (.parse path) (.parse target))
    (.flag done, [], s)

/-- Step after step: every answer with what was logged, and the session at the end. -/
def run (s : MappedSession) : List Step → List (Answer × List LogEntry) × MappedSession
  | [] => ([], s)
  | first :: rest =>
    let (answer, log, s) := s.step first
    let (answers, s) := s.run rest
    ((answer, log) :: answers, s)

end MappedSession

end PostMortem
