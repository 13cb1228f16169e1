import PostMortem.Report.Layout
import PostMortem.Store.Mapped
import PostMortem.Writer

/-! # Inspecting a record file

An inspection opens a record file that exists, writes the report of its record, flushes, and only then, if it is asked
to and there was a record, clears the file.

* `inspect`: one inspection.
* `inspectTimes`: inspections one after the other, each with a fresh writer.
-/
set_option autoImplicit false

namespace PostMortem.Inspector

/-- What an inspection comes to. -/
structure Inspection where
  result : Except StoreError Unit
  writer : Writer
  log : List LogEntry
  files : FileTree

/-- The log entry before a record file is opened. -/
def openingEntry (path : String) : LogEntry := ⟨.debug, "Opening fault record " ++ path, []⟩

/-- The log entry after a record has been cleared. -/
def clearedEntry : LogEntry := ⟨.info, "Fault record cleared", []⟩

/-- Writes the report of a record and flushes. -/
def writeReport (record : Option FaultRecord) (w : Writer) : Except IoError Unit × Writer :=
  match w.writeAll (Report.ofRecord? record).pieces with
  | (.ok (), w) => (w.flush, w)
  | (.error e, w) => (.error e, w)

def inspect (path : String) (clear : Bool) (w : Writer) (files : FileTree) : Inspection :=
  let (opened, files) := MappedRecord.openExisting path files
  let log := openingEntry path :: MappedRecord.openLog path opened
  match opened with
  | .error e => ⟨.error e, w, log, files⟩
  | .ok m =>
    let record := m.load files
    match writeReport record w with
    | (.error e, w) => ⟨.error (.io e), w, log, files⟩
    | (.ok (), w) =>
      if clear && record.isSome then ⟨.ok (), w, log ++ [clearedEntry], m.clear files⟩
      else ⟨.ok (), w, log, files⟩

/-- Inspects the record file at a path some times, with a fresh writer each time. -/
def inspectTimes (path : String) (clear : Bool) (w : Writer) : Nat → FileTree → List Inspection
  | 0, _ => []
  | n + 1, files =>
    let first := inspect path clear w files
    first :: inspectTimes path clear w n first.files

end PostMortem.Inspector
