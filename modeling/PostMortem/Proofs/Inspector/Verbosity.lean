import PostMortem.Proofs.Config.Loading
import PostMortem.Proofs.Inspector.Outcomes
import PostMortem.Proofs.Inspector.Switches

/-! # What the log level has an effect on

Two switches and a field of the configuration say how a run is logged, and they say nothing else. Runs that differ in
these alone do the same work and have the same entries to log; the level only says which of the entries are shown.

* `SameButLevel`, `Variant`: runs that differ in how they are logged.
* `Variant.alike`: their work, and what there is to log.
* `LogsFrom`: the level from which on a run shows entries.
* `verbosity_changes_log_alone`: what holds of a run and all its variants.
-/
set_option autoImplicit false

namespace PostMortem.Inspector
open FileTree MappedRecord

variable {o o' : Options} {t t' : FileTree} {path : String} {words words' : List String} {level : Severity}

/-! ## Inspections of the same bytes -/

/-- The files after two runs, which are the same where the files before these were. -/
structure SameFiles (t t' files files' : FileTree) : Prop where
  names : SameNames files files'
  contents : ∀ node, t'.content node = t.content node → files'.content node = files.content node

theorem openExisting_alike (hnames : SameNames t t')
    (hbytes : ∀ node, t.fileAt? path = some node → t'.content node = t.content node) :
    (openExisting path t').1 = (openExisting path t).1 := by
  cases hopen : (openExisting path t).1 with
  | error e =>
    refine openExisting_eq_error_iff.mpr ?_
    rcases openExisting_eq_error_iff.mp hopen with ⟨cause, hcause, rfl⟩ | ⟨node, hfile, hsize, rfl⟩
    · exact .inl ⟨cause, by rw [hnames.openNode, hcause, Except.map], rfl⟩
    · refine .inr ⟨node, (hnames.fileAt? path).trans hfile, ?_⟩
      rw [hbytes node hfile]
      exact ⟨hsize, rfl⟩
  | ok m =>
    obtain ⟨-, hpath, hfile, hsize⟩ := openExisting_eq_ok_iff.mp (openExisting_of_fst hopen)
    have hopened : openExisting path t' = (.ok m, t') :=
      openExisting_eq_ok_iff.mpr ⟨rfl, hpath, (hnames.fileAt? path).trans hfile, hbytes m.node hfile ▸ hsize⟩
    rw [hopened]

/-- An inspection depends on the bytes of the file that it inspects alone. -/
theorem inspect_alike (hnames : SameNames t t')
    (hbytes : ∀ node, t.fileAt? path = some node → t'.content node = t.content node) (clear : Bool) (w : Writer) :
    (inspect path clear w t').result = (inspect path clear w t).result ∧
      (inspect path clear w t').writer = (inspect path clear w t).writer ∧
      (inspect path clear w t').log = (inspect path clear w t).log ∧
      SameFiles t t' (inspect path clear w t).files (inspect path clear w t').files := by
  have hopen' := openExisting_alike hnames hbytes
  have hsame : SameFiles t t' t t' := ⟨hnames, fun _ hnode => hnode⟩
  cases hopen : (openExisting path t).1 with
  | error e =>
    rw [hopen] at hopen'
    rw [inspect, inspect, openExisting_of_fst hopen, openExisting_of_fst hopen']
    exact ⟨rfl, rfl, rfl, hsame⟩
  | ok m =>
    rw [hopen] at hopen'
    obtain ⟨-, -, hfile, -⟩ := openExisting_eq_ok_iff.mp (openExisting_of_fst hopen)
    have hnode := hbytes m.node hfile
    have hload : m.load t' = m.load t := by rw [load, load, hnode]
    have hcleared : SameFiles t t' (m.clear t) (m.clear t') := by
      refine ⟨hnames.setContent _ _ _, fun node hbefore => ?_⟩
      rw [MappedRecord.clear, MappedRecord.clear, content_setContent, content_setContent, hnode, hbefore]
    rw [inspect, inspect, openExisting_of_fst hopen, openExisting_of_fst hopen']
    dsimp only
    rw [hload]
    obtain ⟨result, w'⟩ := writeReport (m.load t) w
    cases result with
    | error e => exact ⟨rfl, rfl, rfl, hsame⟩
    | ok done =>
      dsimp only
      cases clear && (m.load t).isSome with
      | false => exact ⟨rfl, rfl, rfl, hsame⟩
      | true => exact ⟨rfl, rfl, rfl, hcleared⟩

/-! ## Runs that differ in how they are logged -/

/-- Files that differ at most in the log level in the configuration of a run, which is in another file than the
record. -/
inductive SameButLevel (o : Options) (t : FileTree) : FileTree → Prop
  | same : SameButLevel o t t
  | level {path : String} {node : Nat} {config : FaultConfig} {bytes : List UInt8} {level : Severity} :
    o.config = some path → t.fileAt? path = some node → t.fileAt? (o.target (some config)) ≠ some node →
      FaultConfig.load t path = .ok config →
      FaultConfig.load (t.setContent node bytes) path = .ok (config.withLevel level) →
      SameButLevel o t (t.setContent node bytes)

/-- A run that differs from the one with some options over some files in how it is logged at most. -/
structure Variant (o : Options) (t : FileTree) (words' : List String) (o' : Options) (t' : FileTree) : Prop where
  accepted : Request.parse words' = .inspect o'
  config : o'.config = o.config
  store : o'.store = o.store
  clear : o'.clear = o.clear
  files : SameButLevel o t t'

theorem SameButLevel.names (h : SameButLevel o t t') : SameNames t t' := by
  cases h with
  | same => exact SameNames.refl t
  | level => exact ⟨rfl, rfl, rfl⟩

/-- No configuration is loaded, for the same reason, or two that lead to the same bytes. -/
theorem Variant.loads (h : Variant o t words' o' t') :
    (∃ e, o.loadConfig t = .error e ∧ o'.loadConfig t' = .error e ∧ t' = t) ∨
      ∃ config config', o.loadConfig t = .ok config ∧ o'.loadConfig t' = .ok config' ∧
        o'.recordPath config' = o.recordPath config ∧
        ∀ node, t.fileAt? (o.recordPath config) = some node → t'.content node = t.content node := by
  have hpath : ∀ config, o'.recordPath config = o.recordPath config := by
    intro config
    unfold Options.recordPath
    rw [h.store]
  cases h.files with
  | same =>
    have hload : o'.loadConfig t = o.loadConfig t := by rw [Options.loadConfig, Options.loadConfig, h.config]
    rw [hload]
    cases o.loadConfig t with
    | error e => exact .inl ⟨e, rfl, rfl, rfl⟩
    | ok config => exact .inr ⟨config, config, rfl, rfl, hpath config, fun _ _ => rfl⟩
  | @level path node config bytes level hconfig hfile hapart hload hload' =>
    refine .inr ⟨some config, some (config.withLevel level), ?_, ?_, ?_, ?_⟩
    · exact Options.loadConfig_eq_ok_iff.mpr (.inr ⟨path, config, hconfig, hload, rfl⟩)
    · exact Options.loadConfig_eq_ok_iff.mpr (.inr ⟨path, _, h.config.trans hconfig, hload', rfl⟩)
    · rw [hpath, Options.recordPath_eq, Options.recordPath_eq]
      rfl
    · intro other hother
      rw [Options.recordPath_eq] at hother
      exact content_setContent_of_ne t bytes fun heq => hapart (heq ▸ hother)

/-- Two runs that come to the same, but for their logs. -/
structure SameWork (t t' : FileTree) (a b : Outcome) : Prop where
  exitCode : b.exitCode = a.exitCode
  output : b.output = a.output
  files : SameFiles t t' a.files b.files

/-- **Runs that differ in how they are logged do the same work and have the same entries to log.** -/
theorem Variant.alike (h : Variant o t words' o' t') :
    SameWork t t' (runUnfiltered o (o.loadConfig t) t) (runUnfiltered o' (o'.loadConfig t') t') ∧
      (runUnfiltered o' (o'.loadConfig t') t').log = (runUnfiltered o (o.loadConfig t) t).log := by
  rcases h.loads with ⟨e, hload, hload', rfl⟩ | ⟨config, config', hload, hload', hpath, hbytes⟩
  · rw [hload, hload']
    exact ⟨⟨rfl, rfl, SameNames.refl _, fun _ hnode => hnode⟩, rfl⟩
  · obtain ⟨hresult, hwriter, hlog, hfiles⟩ := inspect_alike h.files.names hbytes o.clear {}
    rw [hload, hload', runUnfiltered, runUnfiltered, hpath, h.clear, hresult, hwriter, hlog]
    cases (inspect (o.recordPath config) o.clear {} t).result with
    | error e => exact ⟨⟨rfl, rfl, hfiles⟩, rfl⟩
    | ok done => exact ⟨⟨rfl, rfl, hfiles⟩, rfl⟩

/-! ## Levels -/

/-- The level from which on a run shows entries: the one of the switch if it is on, else the one of the configuration
if one is loaded. -/
inductive LogsFrom (o : Options) (t : FileTree) : Severity → Prop
  | verbose : o.verbose = true → LogsFrom o t .debug
  | configured {path : String} {config : FaultConfig} : o.verbose = false → o.config = some path →
    FaultConfig.load t path = .ok config → LogsFrom o t config.shared.logLevel
  | usual : o.verbose = false → (∀ path config, o.config = some path → FaultConfig.load t path ≠ .ok config) →
    LogsFrom o t .info

theorem LogsFrom.eq_level (h : LogsFrom o t level) : level = o.level (o.loadConfig t) := by
  unfold Options.level
  cases h with
  | verbose hon => rw [if_pos hon]
  | configured hoff hconfig hload =>
    rw [Options.loadConfig_eq_ok_iff.mpr (.inr ⟨_, _, hconfig, hload, rfl⟩), hoff]
    rfl
  | usual hoff hnone =>
    rw [hoff]
    cases hload : o.loadConfig t with
    | error e => rfl
    | ok config =>
      rcases Options.loadConfig_eq_ok_iff.mp hload with ⟨-, rfl⟩ | ⟨path, loaded, hconfig, hloaded, -⟩
      · rfl
      · exact absurd hloaded (hnone path loaded hconfig)

theorem exists_logsFrom (o : Options) (t : FileTree) : ∃ level, LogsFrom o t level := by
  cases hverbose : o.verbose with
  | true => exact ⟨_, .verbose hverbose⟩
  | false =>
    by_cases hloads : ∃ path config, o.config = some path ∧ FaultConfig.load t path = .ok config
    · obtain ⟨path, config, hconfig, hload⟩ := hloads
      exact ⟨_, .configured hverbose hconfig hload⟩
    · exact ⟨_, .usual hverbose fun path config hconfig hload => hloads ⟨path, config, hconfig, hload⟩⟩

theorem logsFrom_iff : LogsFrom o t level ↔ level = o.level (o.loadConfig t) := by
  refine ⟨LogsFrom.eq_level, ?_⟩
  rintro rfl
  obtain ⟨level, hlevel⟩ := exists_logsFrom o t
  exact hlevel.eq_level ▸ hlevel

theorem shown_sublist {level level' : Severity} (h : level'.rank ≤ level.rank) (log : List LogEntry) :
    (level.shown log).Sublist (level'.shown log) := by
  refine List.monotone_filter_right log fun entry hentry => ?_
  rw [Severity.admits, decide_eq_true_eq] at hentry ⊢
  exact h.trans hentry

/-! ## Entries -/

/-- What there is to log is not detailed, and the error that a run ends with comes last. -/
theorem log_runUnfiltered (o : Options) (config : Except ConfigError (Option FaultConfig)) (t : FileTree) :
    ∃ earlier : List LogEntry, (∀ entry ∈ earlier, entry.severity = .debug ∨ entry.severity = .info) ∧
      ((runUnfiltered o config t).exitCode = 0 ∧ (runUnfiltered o config t).log = earlier ∨
        ∃ e : RunError, (runUnfiltered o config t).log = earlier ++ [e.entry]) := by
  cases config with
  | error e => exact ⟨[], List.forall_mem_nil _, .inr ⟨.config e, rfl⟩⟩
  | ok config =>
    refine ⟨_, severity_inspect (o.recordPath config) o.clear {} t, ?_⟩
    rw [runUnfiltered]
    cases (inspect (o.recordPath config) o.clear {} t).result with
    | error e => exact .inr ⟨.store e, rfl⟩
    | ok done => exact .inl ⟨rfl, rfl⟩

theorem shown_debug (o : Options) (config : Except ConfigError (Option FaultConfig)) (t : FileTree) :
    Severity.debug.shown (runUnfiltered o config t).log = (runUnfiltered o config t).log := by
  obtain ⟨earlier, hquiet, hlog⟩ := log_runUnfiltered o config t
  have hearlier : Severity.debug.shown earlier = earlier := by
    refine List.filter_eq_self.mpr fun entry hentry => ?_
    rcases hquiet entry hentry with hseverity | hseverity <;> rw [hseverity] <;> rfl
  rcases hlog with ⟨-, hlog⟩ | ⟨e, hlog⟩
  · rw [hlog, hearlier]
  · rw [hlog, shown_concat_entry, hearlier]

theorem Variant.log_run (h : Variant o t words' o' t') (hlevel : LogsFrom o' t' level) :
    (run words' t').log = level.shown (runUnfiltered o (o.loadConfig t) t).log := by
  rw [run_of_accepted h.accepted, runOptions, hlevel.eq_level, ← h.alike.2]

/-! ## All variants of a run -/

/-- The changes of a command line, and of a configuration, that lead to variants of a run. -/
structure Varies (words : List String) (o : Options) (t : FileTree) : Prop where
  removed : ∀ {s : LogSwitch} {word before after}, word ∈ s.words → words = before ++ word :: after →
    ∃ o', o = s.turn o' ∧ s.isOn o' = false ∧ Variant o t (before ++ after) o' t
  added : ∀ {s : LogSwitch} {word before after o'}, word ∈ s.words → words = before ++ after →
    Request.parse (before ++ word :: after) = .inspect o' →
      o' = s.turn o ∧ s.isOn o = false ∧ Variant o t (before ++ word :: after) o' t
  /-- A word for a switch that is off may stand wherever an option may begin. -/
  accepted : ∀ {s : LogSwitch} {word before after o'}, word ∈ s.words → words = before ++ after →
    Request.parse before = .inspect o' → "--" ∉ before → s.isOn o = false →
      Request.parse (before ++ word :: after) = .inspect (s.turn o)
  /-- The document of the configuration may name any other level, if it is not in the record file. -/
  relevelled : ∀ {path node config bytes root other level}, o.config = some path → t.fileAt? path = some node →
    t.fileAt? (o.target (some config)) ≠ some node → FaultConfig.load t path = .ok config →
    FaultConfig.DocumentAt t path root → FaultConfig.Regular root →
    FaultConfig.DocumentAt (t.setContent node bytes) path other → FaultConfig.Regular other →
    FaultConfig.OtherLevel root other level →
      FaultConfig.load (t.setContent node bytes) path = .ok (config.withLevel level) ∧
        Variant o t words o (t.setContent node bytes)

/-- The entries of which the variants of a run show a part each. -/
structure CommonLog (words : List String) (o : Options) (t : FileTree) (common : List LogEntry) : Prop where
  shown : ∀ {words' o' t'}, Variant o t words' o' t' → ∃ level, (∀ other, LogsFrom o' t' other ↔ other = level) ∧
    (run words' t').log = common.filter fun entry => level.rank ≤ entry.severity.rank
  verbose : ∀ {words' o' t'}, Variant o t words' o' t' → o'.verbose = true → (run words' t').log = common
  monotone : ∀ {words₁ o₁ t₁ level₁ words₂ o₂ t₂ level₂}, Variant o t words₁ o₁ t₁ → LogsFrom o₁ t₁ level₁ →
    Variant o t words₂ o₂ t₂ → LogsFrom o₂ t₂ level₂ → o₂.verbose = true ∨ level₂.rank ≤ level₁.rank →
      (run words₁ t₁).log.Sublist (run words₂ t₂).log
  /-- A run that fails shows why at every level. -/
  failure : (run words t).exitCode ≠ 0 → ∃ e : RunError, ∀ {words' o' t'}, Variant o t words' o' t' →
    EndsWith e (run words' t').log

theorem varies (hwords : Request.parse words = .inspect o) (t : FileTree) : Varies words o t where
  removed {s word before after} hword hsplit := by
    rw [hsplit] at hwords
    obtain ⟨o', hparse, hoff, rfl⟩ := s.parse_without hword hwords
    exact ⟨o', rfl, hoff, hparse, (s.turn_config o').symm, (s.turn_store o').symm, (s.turn_clear o').symm, .same⟩
  added {s word before after o'} hword hsplit hparse := by
    obtain ⟨o₁, hwithout, hoff, rfl⟩ := s.parse_without hword hparse
    rw [← hsplit, hwords] at hwithout
    cases hwithout
    exact ⟨rfl, hoff, hparse, s.turn_config o, s.turn_store o, s.turn_clear o, .same⟩
  accepted hword hsplit hbefore hmark hoff := LogSwitch.parse_with hword hmark hbefore (hsplit ▸ hwords) hoff
  relevelled hconfig hfile hapart hload hat hregular hat' hregular' hother := by
    have hload' := FaultConfig.load_otherLevel hat hregular hload hat' hregular' hother
    exact ⟨hload', hwords, rfl, rfl, rfl, .level hconfig hfile hapart hload hload'⟩

theorem commonLog (hwords : Request.parse words = .inspect o) (t : FileTree) :
    CommonLog words o t (runUnfiltered o (o.loadConfig t) t).log where
  shown h := ⟨_, fun _ => logsFrom_iff, h.log_run (logsFrom_iff.mpr rfl)⟩
  verbose h hverbose := by rw [h.log_run (.verbose hverbose), shown_debug]
  monotone h₁ hlevel₁ h₂ hlevel₂ hmore := by
    rw [h₁.log_run hlevel₁]
    rcases hmore with hverbose | hrank
    · rw [h₂.log_run (.verbose hverbose), shown_debug]
      exact List.filter_sublist
    · rw [h₂.log_run hlevel₂]
      exact shown_sublist hrank _
  failure hcode := by
    obtain ⟨earlier, hquiet, ⟨hzero, -⟩ | ⟨e, hlog⟩⟩ := log_runUnfiltered o (o.loadConfig t) t
    · rw [run_of_accepted hwords] at hcode
      exact absurd hzero hcode
    · refine ⟨e, fun h => ?_⟩
      rw [h.log_run (logsFrom_iff.mpr rfl), hlog]
      exact endsWith_shown _ hquiet e

/-- **How a run is logged has an effect on its log alone: on which of its entries are shown, from a level on.** -/
theorem verbosity_changes_log_alone (hwords : Request.parse words = .inspect o) (t : FileTree) :
    Varies words o t ∧
      (∀ words' o' t', Variant o t words' o' t' → SameWork t t' (run words t) (run words' t')) ∧
      ∃ common, CommonLog words o t common := by
  refine ⟨varies hwords t, fun words' o' t' h => ?_, _, commonLog hwords t⟩
  obtain ⟨hcode, houtput, hfiles⟩ := h.alike.1
  rw [run_of_accepted hwords, run_of_accepted h.accepted]
  exact ⟨hcode, houtput, hfiles⟩

/-- A run that shows no entry, and two that show all of them and clear the same record. -/
theorem verbosity_changes_log_alone_of_clearing_run :
    let document (level : String) : List UInt8 :=
      Text.Utf8.encode ("shared.service_name='x'\nstore.path='record.bin'\nshared.log_level='" ++ level ++ "'")
    let record : FaultRecord := ⟨.sdkError, 5, 6, ⟨7⟩⟩
    let t := ((fresh ["work"]).withFile (.parse "record.bin") (Image.save Image.blank record)).withFile
      (.parse "fault.toml") (document "error")
    let t' := t.setContent 3 (document "trace")
    let words := ["--clear", "-c", "fault.toml"]
    let words' := ["--clear", "-v", "-c", "fault.toml", "--json"]
    Request.parse words = .inspect ⟨some "fault.toml", none, true, false, false⟩ ∧
      (run words' t').exitCode = (run words t).exitCode ∧ (run words' t').output = (run words t).output ∧
      (run words' t').files.content 2 = (run words t).files.content 2 ∧
      (run words t).log = [] ∧ (run words' t').log.length = 4 ∧ (run words t').log = (run words' t').log := by
  intro document record t t' words words'
  let o : Options := ⟨some "fault.toml", none, true, false, false⟩
  let config : FaultConfig := ⟨⟨.error, "x"⟩, {}, ⟨.retained, some "record.bin"⟩⟩
  have hwords : Request.parse words = .inspect o := by decide +kernel
  have hwords' : Request.parse words' = .inspect { o with verbose := true, json := true } := by decide +kernel
  have hfile : t.fileAt? "fault.toml" = some 3 := by decide +kernel
  have hapart : t.fileAt? (o.target (some config)) ≠ some 3 := by decide +kernel
  have hload : FaultConfig.load t "fault.toml" = .ok config := Outcome.eq_ok_of_toOption (by decide +kernel)
  have hload' : FaultConfig.load t' "fault.toml" = .ok (config.withLevel .trace) :=
    Outcome.eq_ok_of_toOption (by decide +kernel)
  have hfiles : SameButLevel o t t' := .level rfl hfile hapart hload hload'
  have hdetailed : Variant o t words o t' := ⟨hwords, rfl, rfl, rfl, hfiles⟩
  have hverbose : Variant o t words' { o with verbose := true, json := true } t' := ⟨hwords', rfl, rfl, rfl, hfiles⟩
  obtain ⟨-, hwork, common, hcommon⟩ := verbosity_changes_log_alone hwords t
  obtain ⟨hcode, houtput, hafter⟩ := hwork _ _ _ hverbose
  have hconfigured : LogsFrom o t' .trace := .configured rfl rfl hload'
  have hless := hcommon.monotone hdetailed hconfigured hverbose (.verbose rfl) (.inl rfl)
  have hmore := hcommon.monotone hverbose (.verbose rfl) hdetailed hconfigured (.inr (by decide))
  refine ⟨hwords, hcode, houtput, ?_, by decide +kernel, by decide +kernel, hless.antisymm hmore⟩
  exact hafter.contents 2 (content_setContent_of_ne t _ (by decide))

end PostMortem.Inspector
