import PostMortem.Config.Load
import PostMortem.Inspector.Arguments
import PostMortem.Inspector.Inspect
import PostMortem.Log.Lines

/-! # A run of the inspector

The configuration is loaded first if one is given; one that is refused ends the run, whatever else is asked for. The
log shows what its level lets through: all but traces when more is asked for, else what the configuration says, else
from `info` on.

* `Options.recordPath`: the file that is inspected.
* `runOptions`: a run with these options.
* `run`: a run of the program: its exit code, its standard output, its log and the form of it, and the files after it.
-/
set_option autoImplicit false

namespace PostMortem.Inspector

/-! ## Texts -/

/-- The answer to a request for the version. -/
def versionText : String := "fault_inspect 0.1.0\n"

def helpText : String :=
  "Post-mortem inspector for persisted fault records\n" ++
  "\n" ++
  "Usage: fault_inspect [OPTIONS]\n" ++
  "\n" ++
  "Options:\n" ++
  "  -c, --config <FILE>  Fault reporter configuration (fault.toml); supplies the record path\n" ++
  "  -s, --store <FILE>   Record file to inspect; overrides the config\n" ++
  "      --clear          Erase the record after printing it\n" ++
  "  -v, --verbose        Enable verbose logging\n" ++
  "      --json           Output logs in JSON format\n" ++
  "  -h, --help           Print help\n" ++
  "  -V, --version        Print version\n"

/-! ## Outcomes -/

/-- How a run can fail. -/
inductive RunError
  | config (error : ConfigError)
  | store (error : StoreError)
deriving DecidableEq, Repr

def RunError.message : RunError → String
  | config error => error.message
  | store error => error.message

/-- The last log entry of a run that failed. -/
def RunError.entry (e : RunError) : LogEntry := ⟨.error, "Fault inspection failed: " ++ e.message, []⟩

/-- What a run comes to. -/
structure Outcome where
  exitCode : Nat
  output : List UInt8
  log : List LogEntry
  files : FileTree
  /-- The form in which the log is written. -/
  form : LogForm

/-! ## Runs -/

def Options.loadConfig (o : Options) (files : FileTree) : Except ConfigError (Option FaultConfig) :=
  match o.config with
  | none => .ok none
  | some path => some <$> FaultConfig.load files path

def Options.level (o : Options) (config : Except ConfigError (Option FaultConfig)) : Severity :=
  if o.verbose then .debug
  else
    match config with
    | .ok (some config) => config.shared.logLevel
    | _ => .info

/-- The form in which the log is written. -/
def Options.form (o : Options) : LogForm := if o.json then .json else .plain

def Options.recordPath (o : Options) (config : Option FaultConfig) : String :=
  match o.store, config with
  | some path, _ => path
  | none, some config => config.store.recordPath
  | none, none => defaultRecordPath

def inspectingEntry (path : String) : LogEntry := ⟨.info, "Inspecting fault record " ++ path, []⟩

/-- A run with these options, with everything that is logged at any level. -/
def runUnfiltered (o : Options) (config : Except ConfigError (Option FaultConfig)) (files : FileTree) : Outcome :=
  match config with
  | .error e => ⟨1, [], [(RunError.config e).entry], files, o.form⟩
  | .ok config =>
    let path := o.recordPath config
    let inspection := inspect path o.clear {} files
    let log := inspectingEntry path :: inspection.log
    match inspection.result with
    | .ok () => ⟨0, inspection.writer.written, log, inspection.files, o.form⟩
    | .error e => ⟨1, inspection.writer.written, log ++ [(RunError.store e).entry], inspection.files, o.form⟩

def runOptions (o : Options) (files : FileTree) : Outcome :=
  let config := o.loadConfig files
  let outcome := runUnfiltered o config files
  { outcome with log := (o.level config).shown outcome.log }

/-- A run with these words on the command line. -/
def run (words : List String) (files : FileTree) : Outcome :=
  match Request.parse words with
  | .inspect o => runOptions o files
  | .help => ⟨0, Text.Utf8.encode helpText, [], files, .plain⟩
  | .version => ⟨0, Text.Utf8.encode versionText, [], files, .plain⟩
  | .misuse => ⟨2, [], [], files, .plain⟩

end PostMortem.Inspector
