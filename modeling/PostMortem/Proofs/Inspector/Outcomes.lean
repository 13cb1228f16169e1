import PostMortem.Proofs.Inspector.Runs

/-! # How runs of the inspector end

A run ends well if there is nothing wrong with its configuration and there is a record file where it looks for one. It
then shows what the file holds, and the file is all that it may change. Otherwise it ends with an error, about the
configuration if there is one to report, else about the record file; it then has shown nothing and changed nothing, and
the error is the last entry of its log at any level.

* `Fails`: the errors that a run can end with.
* `finds_or_fails`: there is no third way for a run to end.
* `Fails.runOptions`: a run that ends with an error.
* `run_comes_to`: what every run comes to.
-/
set_option autoImplicit false

namespace PostMortem.Inspector
open FileTree

variable {o : Options} {t : FileTree}

/-! ## Errors -/

/-- What a run ends with an error about. -/
inductive Fails (o : Options) (t : FileTree) : RunError → Prop
  | configuration {path : String} {e : ConfigError} :
    o.config = some path → FaultConfig.load t path = .error e → Fails o t (.config e)
  | noFile {config : Option FaultConfig} {cause : IoError} :
    o.Configures t config → t.openNode false (.parse (o.target config)) = .error cause →
      Fails o t (.store (.io cause))
  | otherSize {config : Option FaultConfig} {node : Nat} :
    o.Configures t config → t.fileAt? (o.target config) = some node → (t.content node).length ≠ Image.size →
      Fails o t (.store (.invalidSize (t.content node).length Image.size))

theorem Options.loadConfig_eq_error_iff {e : ConfigError} :
    o.loadConfig t = .error e ↔ ∃ path, o.config = some path ∧ FaultConfig.load t path = .error e := by
  unfold loadConfig
  cases o.config with
  | none => simp
  | some path => cases hload : FaultConfig.load t path <;> simp [Functor.map, Except.map, hload]

/-- Neither a configuration nor a record file is found, or both are. -/
theorem finds_or_fails (o : Options) (t : FileTree) : (∃ config node, Finds o t config node) ∨ ∃ e, Fails o t e := by
  cases hload : o.loadConfig t with
  | error e =>
    obtain ⟨path, hpath, herror⟩ := Options.loadConfig_eq_error_iff.mp hload
    exact .inr ⟨_, .configuration hpath herror⟩
  | ok config =>
    have hconfig := Options.loadConfig_eq_ok_iff.mp hload
    cases hopen : (MappedRecord.openExisting (o.target config) t).1 with
    | ok m =>
      obtain ⟨-, -, hfile, hsize⟩ := MappedRecord.openExisting_eq_ok_iff.mp (openExisting_of_fst hopen)
      exact .inl ⟨config, m.node, hconfig, hfile, hsize⟩
    | error e =>
      rcases MappedRecord.openExisting_eq_error_iff.mp hopen with ⟨cause, hcause, -⟩ | ⟨node, hfile, hsize, -⟩
      · exact .inr ⟨_, .noFile hconfig hcause⟩
      · exact .inr ⟨_, .otherSize hconfig hfile hsize⟩

/-- A configuration that is refused is what a run ends with an error about, whatever its record file. -/
theorem Fails.of_refused {e : RunError} (h : Fails o t e) {cause : ConfigError} (hload : o.loadConfig t = .error cause) :
    e = .config cause := by
  have hnone : ∀ config, ¬ o.Configures t config := by
    intro config hconfig
    rw [Options.loadConfig_eq_ok_iff.mpr hconfig] at hload
    cases hload
  cases h with
  | configuration hpath herror =>
    rw [Options.loadConfig_eq_error_iff.mpr ⟨_, hpath, herror⟩] at hload
    rw [Except.error.inj hload]
  | noFile hconfig => exact absurd hconfig (hnone _)
  | otherSize hconfig => exact absurd hconfig (hnone _)

/-! ## Logs -/

/-- Before it ends, a run has nothing serious to log, and nothing detailed. -/
theorem severity_inspect (path : String) (clear : Bool) (w : Writer) (t : FileTree) :
    ∀ entry ∈ inspectingEntry path :: (inspect path clear w t).log,
      entry.severity = .debug ∨ entry.severity = .info := by
  have hopening : ∀ opened, ∀ entry ∈ openingEntry path :: MappedRecord.openLog path opened,
      entry.severity = .debug := by
    intro opened entry hentry
    cases opened with
    | error e =>
      rw [MappedRecord.openLog, List.mem_singleton] at hentry
      rw [hentry, openingEntry]
    | ok m =>
      rw [MappedRecord.openLog, List.mem_cons, List.mem_singleton] at hentry
      rcases hentry with rfl | rfl <;> rfl
  rw [List.forall_mem_cons]
  refine ⟨.inr rfl, ?_⟩
  unfold inspect
  dsimp only
  split
  · exact fun entry hentry => .inl (hopening _ entry hentry)
  · split
    · exact fun entry hentry => .inl (hopening _ entry hentry)
    · split
      · intro entry hentry
        rcases List.mem_append.mp hentry with hentry | hentry
        · exact .inl (hopening _ entry hentry)
        · exact .inr (by rw [List.mem_singleton.mp hentry, clearedEntry])
      · exact fun entry hentry => .inl (hopening _ entry hentry)

/-- An error is shown at every level. -/
theorem shown_concat_entry (level : Severity) (log : List LogEntry) (e : RunError) :
    level.shown (log ++ [e.entry]) = level.shown log ++ [e.entry] := by
  have hadmits : level.admits e.entry.severity = true := by cases level <;> rfl
  simp [Severity.shown, List.filter_append, hadmits]

/-! ## Runs -/

/-- A log that ends with an error, and has no other. -/
def EndsWith (e : RunError) (log : List LogEntry) : Prop :=
  ∃ earlier, log = earlier ++ [⟨.error, "Fault inspection failed: " ++ e.message, []⟩] ∧
    ∀ entry ∈ earlier, entry.severity ≠ .error

theorem endsWith_shown (level : Severity) {log : List LogEntry}
    (h : ∀ entry ∈ log, entry.severity = .debug ∨ entry.severity = .info) (e : RunError) :
    EndsWith e (level.shown (log ++ [e.entry])) := by
  refine ⟨level.shown log, shown_concat_entry level log e, fun entry hentry => ?_⟩
  rcases h entry (List.mem_filter.mp hentry).1 with hseverity | hseverity <;> simp [hseverity]

/-- A run that cannot open the record file. -/
theorem runOptions_of_refused {config : Option FaultConfig} {e : StoreError} (hconfig : o.Configures t config)
    (hopen : (MappedRecord.openExisting (o.target config) t).1 = .error e) :
    (runOptions o t).exitCode = 1 ∧ (runOptions o t).output = [] ∧ (runOptions o t).files = t ∧
      EndsWith (.store e) (runOptions o t).log := by
  have hload : o.loadConfig t = .ok config := Options.loadConfig_eq_ok_iff.mpr hconfig
  obtain ⟨hresult, hwriter, hfiles⟩ := inspect_refused hopen o.clear {}
  rw [runOptions, hload, runUnfiltered]
  dsimp only
  rw [Options.recordPath_eq, hresult]
  dsimp only
  rw [hwriter, hfiles]
  exact ⟨rfl, rfl, rfl, endsWith_shown _ (severity_inspect _ _ _ _) _⟩

theorem Fails.runOptions {e : RunError} (h : Fails o t e) :
    (runOptions o t).exitCode = 1 ∧ (runOptions o t).output = [] ∧ (runOptions o t).files = t ∧
      EndsWith e (runOptions o t).log := by
  cases h with
  | configuration hpath herror =>
    have hload := Options.loadConfig_eq_error_iff.mpr ⟨_, hpath, herror⟩
    rw [Inspector.runOptions, hload, runUnfiltered]
    exact ⟨rfl, rfl, rfl, endsWith_shown _ (List.forall_mem_nil _) _⟩
  | noFile hconfig hcause =>
    exact runOptions_of_refused hconfig (MappedRecord.openExisting_eq_error_iff.mpr (.inl ⟨_, hcause, rfl⟩))
  | otherSize hconfig hfile hsize =>
    exact runOptions_of_refused hconfig
      (MappedRecord.openExisting_eq_error_iff.mpr (.inr ⟨_, hfile, hsize, rfl⟩))

/-- **What a run comes to: it shows the record file, which it may clear, or ends with an error and leaves everything as
it was.** -/
theorem run_comes_to {words : List String} {o : Options} (hwords : Request.parse words = .inspect o) (t : FileTree) :
    ((run words t).exitCode = 0 ∨ (run words t).exitCode = 1) ∧
      ((run words t).exitCode = 0 ↔ ∃ config node, Finds o t config node) ∧
      (∀ config node, Finds o t config node →
        (run words t).output = Text.Utf8.encode (Report.ofRecord? (Image.decode? (t.content node))).text ∧
          (run words t).files =
            if o.clear = true ∧ Image.decode? (t.content node) ≠ none then t.setContent node (List.replicate 32 0)
            else t) ∧
      ((run words t).exitCode = 1 →
        (run words t).output = [] ∧ (run words t).files = t ∧ ∃ e, Fails o t e ∧ EndsWith e (run words t).log) := by
  rw [run_of_accepted hwords]
  have hshown : ∀ config node, Finds o t config node →
      (runOptions o t).output = Text.Utf8.encode (Report.ofRecord? (Image.decode? (t.content node))).text ∧
        (runOptions o t).files =
          if o.clear = true ∧ Image.decode? (t.content node) ≠ none then t.setContent node (List.replicate 32 0)
          else t := by
    intro config node hfound
    obtain ⟨-, houtput, hfiles⟩ := hfound.runOptions
    refine ⟨houtput, hfiles.trans ?_⟩
    rw [Image.clear_eq_blank hfound.sized, Image.blank]
    simp only [Bool.and_eq_true, Option.isSome_iff_ne_none, Image.size]
  rcases finds_or_fails o t with ⟨config, node, hfound⟩ | ⟨e, hfails⟩
  · have hcode := hfound.runOptions.1
    exact ⟨.inl hcode, iff_of_true hcode ⟨config, node, hfound⟩, hshown, fun hone => by
      rw [hcode] at hone
      cases hone⟩
  · obtain ⟨hcode, houtput, hfiles, hends⟩ := hfails.runOptions
    have hlost : ¬ ∃ config node, Finds o t config node := by
      rintro ⟨config, node, hfound⟩
      rw [hfound.runOptions.1] at hcode
      cases hcode
    have hnonzero : (runOptions o t).exitCode ≠ 0 := by
      rw [hcode]
      exact Nat.one_ne_zero
    exact ⟨.inr hcode, iff_of_false hnonzero hlost, hshown, fun _ => ⟨houtput, hfiles, e, hfails, hends⟩⟩

/-- A run that is told which record file to clear clears it, whatever file its configuration names; but it does not if
the configuration is refused. -/
theorem run_comes_to_of_told_file :
    let record : FaultRecord := ⟨.sdkError, 5, 6, ⟨7⟩⟩
    let words := ["--clear", "-s", "record.bin", "--config=fault.toml"]
    let withDocument (document : String) : FileTree :=
      ((fresh ["work"]).withFile (.parse "record.bin") (Image.save Image.blank record)).withFile (.parse "fault.toml")
        (Text.Utf8.encode document)
    let t := withDocument "shared.service_name='x'\nstore.path='other.bin'"
    let refused := withDocument "shared.service_name=''\nstore.path='record.bin'"
    (run words t).exitCode = 0 ∧ (run words t).files = t.setContent 2 (List.replicate 32 0) ∧
      (run words refused).exitCode = 1 ∧ (run words refused).output = [] ∧ (run words refused).files = refused ∧
      EndsWith (.config .emptyServiceName) (run words refused).log := by
  intro record words withDocument t refused
  let o : Options := ⟨some "fault.toml", some "record.bin", true, false, false⟩
  have hwords : Request.parse words = .inspect o := by decide +kernel
  have hfound : Finds o t (some ⟨⟨.info, "x"⟩, ⟨.log⟩, ⟨.retained, some "other.bin"⟩⟩) 2 := by
    refine ⟨.inr ⟨"fault.toml", _, rfl, ?_, rfl⟩, ?_, ?_⟩
    · exact Outcome.eq_ok_of_toOption (by decide +kernel)
    · decide +kernel
    · decide +kernel
  have hrecord : Image.decode? (t.content 2) = some record := by decide +kernel
  obtain ⟨-, hexit, hshown, -⟩ := run_comes_to hwords t
  have hcleared := (hshown _ _ hfound).2
  rw [if_pos ⟨rfl, by rw [hrecord]; exact Option.some_ne_none record⟩] at hcleared
  have hload : o.loadConfig refused = .error .emptyServiceName :=
    Options.loadConfig_eq_error_iff.mpr ⟨"fault.toml", rfl, by decide +kernel⟩
  obtain ⟨hcode, hfinds, -, hfailed⟩ := run_comes_to hwords refused
  have hone : (run words refused).exitCode = 1 := by
    refine hcode.resolve_left fun hzero => ?_
    obtain ⟨config, node, hconfigured, -, -⟩ := hfinds.mp hzero
    rw [Options.loadConfig_eq_ok_iff.mpr hconfigured] at hload
    cases hload
  obtain ⟨houtput, hfiles, e, hfails, hends⟩ := hfailed hone
  rw [hfails.of_refused hload] at hends
  exact ⟨hexit.mpr ⟨_, _, hfound⟩, hcleared, hone, houtput, hfiles, hends⟩

end PostMortem.Inspector
