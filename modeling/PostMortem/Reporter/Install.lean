import PostMortem.Config.Basic
import PostMortem.Reporter.State

/-! # Installation

Sink and store are wired from a configuration. The sink is set first; when the record file cannot be opened, it stays
set and the store stays what it was.

* `Reporter.openStore`: installs a record file as the store.
* `Reporter.install`: wires both from a configuration.
-/
set_option autoImplicit false

namespace PostMortem.Reporter

/-- Opens a record file and installs it as the store, which stays what it was if that fails. -/
def openStore (path : String) (r : Reporter) : Except StoreError Unit × Reporter :=
  let (result, files) := MappedRecord.openOrCreate path r.files
  let r := { r with files := files, log := r.log ++ MappedRecord.openLog path result }
  match result with
  | .ok m => (.ok (), { r with store := some (.file m) })
  | .error e => (.error e, r)

/-- What a successful installation leaves in the log. -/
def installEntry (config : FaultConfig) : LogEntry :=
  ⟨.info, "Fault reporter installed for " ++ config.shared.serviceName,
    [.sink config.report.sink, .backend config.store.backend]⟩

def install (config : FaultConfig) (r : Reporter) : Except StoreError Unit × Reporter :=
  let r := { r with sink := config.report.sink }
  match config.store.backend with
  | .retained => (.ok (), { r with store := some (.region .processWide) }.tell (installEntry config))
  | .file =>
    match r.openStore config.store.recordPath with
    | (.ok (), r) => (.ok (), r.tell (installEntry config))
    | (.error e, r) => (.error e, r)

end PostMortem.Reporter
