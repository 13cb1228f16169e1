import PostMortem.Proofs.Reporter.Raised
import PostMortem.Proofs.Reporter.Runs

/-! # What the sink has a say in

The sink decides what a report shows, and nothing else. Two runs of a program that select different sinks take the same
states but for the sink, call the same handlers and give the same answers. On standard output and in the log, each of
them has what its own sink lets through of the faults that come to the standard handler; all else that is shown is the
same, but for the sink that the entry of an installation names.

* `FaultConfig.SameButSink`, `Step.SameButSink`: configurations and steps that select different sinks.
* `Step.shownBy`, `Step.loggedBy`: what a step has on standard output and in the log on account of the sink.
* `Reporter.SameButReports`: what corresponding steps of two runs show.
* `Reporter.run_differs_in_reports`: all steps of two runs.
-/
set_option autoImplicit false

namespace PostMortem

/-- A sink is read back from its code, so a reporter that keeps the code has the sink. -/
theorem SinkKind.ofCode?_code (sink : SinkKind) : ofCode? sink.code = some sink := by
  cases sink <;> rfl

/-- Two configurations with the same content but for the sink. -/
structure FaultConfig.SameButSink (config config' : FaultConfig) : Prop where
  shared : config'.shared = config.shared
  store : config'.store = config.store

def LogField.isSink : LogField → Bool
  | .sink _ => true
  | _ => false

def LogEntry.withoutSink (entry : LogEntry) : LogEntry :=
  { entry with fields := entry.fields.filter fun field => !field.isSink }

namespace Reporter

variable {α : Type}

/-- Two steps that are the same, or that select a sink each: directly, or by an installation. -/
inductive Step.SameButSink : Step α → Step α → Prop
  | same (s : Step α) : SameButSink s s
  | setSink (sink sink' : SinkKind) : SameButSink (.setSink sink) (.setSink sink')
  | install {document document' : String} {config config' : FaultConfig} :
    FaultConfig.ofText document = .ok config → FaultConfig.ofText document' = .ok config' →
      config.SameButSink config' → SameButSink (.install document) (.install document')

/-- What a step has on standard output: the report of a fault that comes to the standard handler, if the sink prints, or
the report that it is asked for. -/
def Step.shownBy (build : Build) (handler : Handler) (sink : SinkKind) : Step α → Report
  | .print pc event => .ofFault build.payloadAddress pc event
  | s =>
    match s.reported? build.capturesSites handler with
    | some fault => sink.printed build.payloadAddress fault
    | none => []

/-- What a step has in the log on account of the sink: the entry of a fault that comes to the standard handler. -/
def Step.loggedBy (build : Build) (handler : Handler) (sink : SinkKind) (s : Step α) : List LogEntry :=
  match s.reported? build.capturesSites handler with
  | some fault => sink.logged fault
  | none => []

/-- What corresponding steps show, one in the state `r` and the other one in the state `r'`. -/
structure SameButReports (build : Build) (r r' : Reporter) (s s' : Step α) (o o' : Observation α) : Prop where
  /-- Only the question for the sink is answered differently. -/
  answer : o'.answer = o.answer ∨ s = .sink ∧ s' = .sink ∧ o.answer = .sink r.sink ∧ o'.answer = .sink r'.sink
  delivered : o'.delivered = o.delivered
  printed : o.printed = s.shownBy build r.handler r.sink ∧ o'.printed = s'.shownBy build r'.handler r'.sink
  log : ∃ rest rest', o.log = s.loggedBy build r.handler r.sink ++ rest ∧
    o'.log = s'.loggedBy build r'.handler r'.sink ++ rest' ∧
      rest'.map LogEntry.withoutSink = rest.map LogEntry.withoutSink ∧
        ((∀ document, s ≠ .install document) → rest' = rest)

/-! ## Steps that report nothing -/

section
variable (build : Build) (r : Reporter) (s : Step α)

/-- Whether a step selects a sink or asks for it. -/
def Step.usesSink : Step α → Bool
  | .setSink _ => true
  | .sink => true
  | .install _ => true
  | _ => false

theorem openStore_withSink (path : String) (sink : SinkKind) :
    openStore path { r with sink := sink } =
      ((r.openStore path).1, { (r.openStore path).2 with sink := sink }) := by
  unfold openStore
  dsimp only
  cases MappedRecord.openOrCreate path r.files with
  | mk result files => cases result <;> rfl

theorem setStore_withSink (choice : StoreChoice) (sink : SinkKind) :
    setStore (α := α) choice { r with sink := sink } =
      ((r.setStore (α := α) choice).1, { (r.setStore (α := α) choice).2 with sink := sink }) := by
  cases choice with
  | file path =>
    unfold setStore
    dsimp only
    rw [openStore_withSink]
  | _ => rfl

theorem callFile_withSink (path : String) (call : StoreCall) (sink : SinkKind) :
    callFile (α := α) path call { r with sink := sink } =
      ((r.callFile (α := α) path call).1, { (r.callFile (α := α) path call).2 with sink := sink }) := by
  unfold callFile
  dsimp only
  cases MappedRecord.openExisting path r.files with
  | mk result files =>
    cases result with
    | error e => rfl
    | ok m => cases call <;> rfl

theorem step_withSink {s : Step α} (hs : s.usesSink = false)
    (hreported : s.reported? build.capturesSites r.handler = none) (sink : SinkKind) :
    ({ r with sink := sink } : Reporter).step build s =
      ((r.step build s).1, { (r.step build s).2 with sink := sink }) := by
  rcases s.cases_raised build.capturesSites with ⟨fault, hraised⟩ | ⟨site, value, hpassed⟩ | hplain
  · have hkept : r.handler.forwards? fault = none := (reported?_of_raised hraised r.handler).symm.trans hreported
    have hkept' : ({ r with sink := sink } : Reporter).handler.forwards? fault = none := hkept
    rw [step_of_unwound _ _ hraised hkept, step_of_unwound _ _ hraised hkept']
  · rw [step_of_passed hpassed, step_of_passed hpassed]
  · cases hplain with
    | standardHandler => cases hreported
    | handleFault pc event => exact congrArg (fun r => endCheck (.halted, r)) (handleFault_withSink _ pc event r sink)
    | setSink | sink | install => cases hs
    | setStore choice => exact setStore_withSink r choice sink
    | log pc event => rw [step, logFault_append, step, logFault_append]
    | region id call => cases call <;> rfl
    | file path call => exact callFile_withSink r path call sink
    | remove path =>
      unfold step
      dsimp only
      split <;> rfl
    | setHandler | faulted | print | contents | unpark => rfl

theorem shownBy_of_unreported {s : Step α} (hreported : s.reported? build.capturesSites r.handler = none)
    (hs : ∀ pc event, s ≠ .print pc event) : s.shownBy build r.handler r.sink = [] := by
  unfold Step.shownBy
  split
  · rename_i pc event
    exact absurd rfl (hs pc event)
  · rw [hreported]

theorem Serves.printed {r r' : Reporter} (h : Serves r r') : r'.printed = r.printed := by
  obtain ⟨sink, store, regions, files, log, rfl⟩ := h
  rfl

/-- Only a report that is asked for is printed then. -/
theorem printed_of_unreported {s : Step α} (hreported : s.reported? build.capturesSites r.handler = none) :
    (r.step build s).2.printed = r.printed ++ s.shownBy build r.handler r.sink := by
  by_cases hprint : ∃ pc event, s = .print pc event
  · obtain ⟨pc, event, rfl⟩ := hprint
    rfl
  · have hs : ∀ pc event, s ≠ .print pc event := fun pc event h => hprint ⟨pc, event, h⟩
    rw [shownBy_of_unreported build r hreported hs, List.append_nil]
    rcases s.cases_raised build.capturesSites with ⟨fault, hraised⟩ | ⟨site, value, hpassed⟩ | hplain
    · rw [step_of_unwound build r hraised ((reported?_of_raised hraised r.handler).symm.trans hreported)]
    · rw [step_of_passed hpassed]
    · cases hplain with
      | standardHandler => cases hreported
      | handleFault pc event =>
        have hhandled : (r.handleFault build.payloadAddress pc event).printed = r.printed := by
          rw [handleFault_of_quiet]
        exact hhandled
      | print pc event => exact absurd rfl (hs pc event)
      | setStore choice => exact (serves_setStore r choice).printed
      | install document => exact (serves_installText r document).printed
      | log pc event =>
        rw [step, logFault_append]
      | region id call => exact (serves_callRegion r id call).printed
      | file path call => exact (serves_callFile r path call).printed
      | remove path =>
        unfold step
        dsimp only
        split <;> rfl
      | setHandler | setSink | sink | faulted | contents | unpark => rfl

end

/-! ## Installations -/

theorem withoutSink_installEntry {config config' : FaultConfig} (h : config.SameButSink config') :
    (installEntry config').withoutSink = (installEntry config).withoutSink := by
  simp [installEntry, LogEntry.withoutSink, LogField.isSink, h.shared, h.store]

/-- Installations from configurations that select different sinks end in the same way, in the same state. -/
theorem install_corresponds {config config' : FaultConfig} (h : config.SameButSink config') (r : Reporter)
    (sink : SinkKind) :
    (install config' { r with sink := sink }).1 = (r.install config).1 ∧
      ∃ log, (install config' { r with sink := sink }).2 =
          { (r.install config).2 with sink := config'.report.sink, log := log } ∧
        log.map LogEntry.withoutSink = (r.install config).2.log.map LogEntry.withoutSink := by
  have hentry := withoutSink_installEntry h
  unfold install openStore
  dsimp only
  rw [h.store]
  cases config.store.backend with
  | retained => exact ⟨rfl, _, rfl, by simp [tell, hentry]⟩
  | file =>
    cases MappedRecord.openOrCreate config.store.recordPath r.files with
    | mk result files =>
      cases result with
      | error e => exact ⟨rfl, _, rfl, rfl⟩
      | ok m => exact ⟨rfl, _, rfl, by simp [tell, hentry]⟩

/-! ## One step -/

/-- The second reporter is the first one with a sink of its own. -/
def AlikeButSink (r r' : Reporter) : Prop := r' = { r with sink := r'.sink }

theorem AlikeButSink.refl (r : Reporter) : AlikeButSink r r := rfl

/-- What a step does in two reporters that are alike but for the sink. -/
def StepsAlike (build : Build) (r r' : Reporter) (s s' : Step α) : Prop :=
  SameButReports build r r' s s' (r.observe build s).1 (r'.observe build s').1 ∧
    AlikeButSink (r.observe build s).2 (r'.observe build s').2

section
variable (build : Build) (r : Reporter) (sink : SinkKind)

theorem quiet_withSink : ({ r with sink := sink } : Reporter).quiet = { r.quiet with sink := sink } := rfl

theorem shownBy_of_reported {s : Step α} {fault : Fault}
    (h : s.reported? build.capturesSites r.handler = some fault) :
    s.shownBy build r.handler r.sink = r.sink.printed build.payloadAddress fault := by
  unfold Step.shownBy
  split
  · cases h
  · rw [h]

theorem loggedBy_of_reported {s : Step α} {fault : Fault}
    (h : s.reported? build.capturesSites r.handler = some fault) :
    s.loggedBy build r.handler r.sink = r.sink.logged fault := by
  unfold Step.loggedBy
  rw [h]

theorem loggedBy_of_unreported {s : Step α} (h : s.reported? build.capturesSites r.handler = none) :
    s.loggedBy build r.handler r.sink = [] := by
  unfold Step.loggedBy
  rw [h]

theorem stepsAlike_of_reported {s : Step α} {fault : Fault}
    (h : s.reported? build.capturesSites r.handler = some fault) :
    StepsAlike build r { r with sink := sink } s s := by
  have h' : s.reported? build.capturesSites ({ r with sink := sink } : Reporter).handler = some fault := h
  have hone := observe_of_reported build r h
  have hother := observe_of_reported build { r with sink := sink } h'
  have hhandled := handleFault_withSink build.payloadAddress fault.pc fault.event r.quiet sink
  dsimp only at hone hother
  rw [quiet_withSink, hhandled] at hother
  unfold StepsAlike
  rw [hone, hother]
  refine ⟨⟨.inl rfl, rfl, ⟨?_, ?_⟩, ?_⟩, rfl⟩
  · exact (shownBy_of_reported build r h).symm
  · exact (shownBy_of_reported build { r with sink := sink } h').symm
  · rw [loggedBy_of_reported build r h, loggedBy_of_reported build { r with sink := sink } h']
    exact ⟨_, _, rfl, rfl, rfl, fun _ => rfl⟩

theorem observe_withSink {s : Step α} (hs : s.usesSink = false)
    (h : s.reported? build.capturesSites r.handler = none) :
    ({ r with sink := sink } : Reporter).observe build s =
      ((r.observe build s).1, { (r.observe build s).2 with sink := sink }) := by
  have hstep := step_withSink build r.quiet hs h sink
  unfold observe
  rw [quiet_withSink, hstep]
  rfl

theorem stepsAlike_of_unreported {s : Step α} (hs : s.usesSink = false)
    (h : s.reported? build.capturesSites r.handler = none) : StepsAlike build r { r with sink := sink } s s := by
  have h' : s.reported? build.capturesSites ({ r with sink := sink } : Reporter).handler = none := h
  have hobserve := observe_withSink build r sink hs h
  have hone : (r.observe build s).1.printed = s.shownBy build r.handler r.sink :=
    printed_of_unreported build r.quiet h
  have hother : (({ r with sink := sink } : Reporter).observe build s).1.printed = s.shownBy build r.handler sink :=
    printed_of_unreported build ({ r with sink := sink } : Reporter).quiet h'
  unfold StepsAlike
  rw [hobserve] at hother ⊢
  refine ⟨⟨.inl rfl, rfl, ⟨hone, hother⟩, ?_⟩, rfl⟩
  rw [loggedBy_of_unreported build r h, loggedBy_of_unreported build { r with sink := sink } h']
  exact ⟨_, _, rfl, rfl, rfl, fun _ => rfl⟩

theorem installText_of_ok {document : String} {config : FaultConfig} (h : FaultConfig.ofText document = .ok config) :
    r.installText (α := α) document = (done (r.install config).1, (r.install config).2) := by
  unfold installText
  rw [h]

/-- Installations print nothing and log nothing on account of the sink. -/
theorem stepsAlike_of_install {document document' : String} {config config' : FaultConfig}
    (hconfig : FaultConfig.ofText document = .ok config) (hconfig' : FaultConfig.ofText document' = .ok config')
    (h : config.SameButSink config') :
    StepsAlike (α := α) build r { r with sink := sink } (.install document) (.install document') := by
  obtain ⟨hresult, log, hafter, hlog⟩ := install_corresponds h r.quiet sink
  have hprinted : (r.quiet.install config).2.printed = [] := (serves_install r.quiet config).printed
  have hone : r.observe (α := α) build (.install document) =
      (⟨done (r.quiet.install config).1, [], (r.quiet.install config).2.log, (r.quiet.install config).2.delivered⟩,
        (r.quiet.install config).2.quiet) := by
    unfold observe
    rw [step, installText_of_ok r.quiet hconfig, ← hprinted]
  have hother : ({ r with sink := sink } : Reporter).observe (α := α) build (.install document') =
      (⟨done (r.quiet.install config).1, [], log, (r.quiet.install config).2.delivered⟩,
        { (r.quiet.install config).2 with sink := config'.report.sink }.quiet) := by
    unfold observe
    rw [step, installText_of_ok _ hconfig', quiet_withSink, hresult, hafter, ← hprinted]
    rfl
  unfold StepsAlike
  rw [hone, hother]
  refine ⟨⟨.inl rfl, rfl, ⟨rfl, rfl⟩, _, _, rfl, rfl, hlog, ?_⟩, rfl⟩
  intro hnot
  exact absurd rfl (hnot document)

theorem stepsAlike_of_refused {document : String} {e : ConfigError} (h : FaultConfig.ofText document = .error e) :
    StepsAlike (α := α) build r { r with sink := sink } (.install document) (.install document) := by
  have hrefused : ∀ r : Reporter,
      r.observe (α := α) build (.install document) = (⟨.refused e, [], [], []⟩, r.quiet) := by
    intro r
    unfold observe
    rw [step, installText, h]
    rfl
  unfold StepsAlike
  rw [hrefused, hrefused]
  exact ⟨⟨.inl rfl, rfl, ⟨rfl, rfl⟩, [], [], rfl, rfl, rfl, fun _ => rfl⟩, rfl⟩

theorem stepsAlike {s s' : Step α} (h : s.SameButSink s') : StepsAlike build r { r with sink := sink } s s' := by
  cases h with
  | setSink one other => exact ⟨⟨.inl rfl, rfl, ⟨rfl, rfl⟩, [], [], rfl, rfl, rfl, fun _ => rfl⟩, rfl⟩
  | install hconfig hconfig' hsame => exact stepsAlike_of_install build r sink hconfig hconfig' hsame
  | same =>
    cases hreported : s.reported? build.capturesSites r.handler with
    | some fault => exact stepsAlike_of_reported build r sink hreported
    | none =>
      -- only steps that select the sink or ask for it can tell the two reporters apart
      cases s with
      | setSink => exact ⟨⟨.inl rfl, rfl, ⟨rfl, rfl⟩, [], [], rfl, rfl, rfl, fun _ => rfl⟩, rfl⟩
      | sink => exact ⟨⟨.inr ⟨rfl, rfl, rfl, rfl⟩, rfl, ⟨rfl, rfl⟩, [], [], rfl, rfl, rfl, fun _ => rfl⟩, rfl⟩
      | install document =>
        cases hconfig : FaultConfig.ofText document with
        | ok config => exact stepsAlike_of_install build r sink hconfig hconfig ⟨rfl, rfl⟩
        | error e => exact stepsAlike_of_refused build r sink hconfig
      | _ => exact stepsAlike_of_unreported build r sink rfl hreported

end

theorem stepsAlike_of_alike (build : Build) {r r' : Reporter} (h : AlikeButSink r r') {s s' : Step α}
    (hs : s.SameButSink s') : StepsAlike build r r' s s' := by
  have halike := stepsAlike build r r'.sink hs
  rwa [← h] at halike

/-! ## Whole runs -/

/-- **Runs that select different sinks differ in their reports, and in nothing else.** -/
theorem run_differs_in_reports (build : Build) (r : Reporter) {steps steps' : List (Step α)}
    (h : List.Forall₂ Step.SameButSink steps steps') :
    let one := fun n => r.run build (steps.take n)
    let other := fun n => r.run build (steps'.take n)
    steps'.length = steps.length ∧ (∀ n, AlikeButSink (one n).2 (other n).2) ∧
      (r.run build steps).1.length = steps.length ∧ (r.run build steps').1.length = steps.length ∧
        ∀ (i : Nat) (s s' : Step α) (o o' : Observation α), steps[i]? = some s → steps'[i]? = some s' →
          (r.run build steps).1[i]? = some o → (r.run build steps').1[i]? = some o' →
            SameButReports build (one i).2 (other i).2 s s' o o' := by
  intro one other
  have hlength : steps'.length = steps.length := h.length_eq.symm
  have hstates : ∀ n, AlikeButSink (one n).2 (other n).2 := by
    intro n
    refine run_related AlikeButSink ?_ (AlikeButSink.refl r) (List.forall₂_take n h)
    intro r r' s s' halike hsteps
    exact (stepsAlike_of_alike build halike hsteps).2
  refine ⟨hlength, hstates, length_run build r steps, (length_run build r steps').trans hlength, ?_⟩
  intro i s s' o o' hs hs' ho ho'
  rw [eq_observe_of_getElem?_run hs ho, eq_observe_of_getElem?_run hs' ho']
  exact (stepsAlike_of_alike build (hstates i) (getElem?_corresponds h hs hs')).1

/-- One run prints and the other one is silent: the record of the fault is the same. -/
theorem run_differs_in_reports_of_text_and_silence :
    let install : Step Unit := .install "[shared]\nservice_name = 'pump'\n[report]\nsink = 'text'"
    let install' : Step Unit := .install "[shared]\nservice_name = 'pump'\n[report]\nsink = 'none'"
    let steps : List (Step Unit) := [.setHandler (.forwarder "pump"), install, .checkBool false ⟨7, "pump.c"⟩]
    let steps' : List (Step Unit) := [.setHandler (.forwarder "pump"), install', .checkBool false ⟨7, "pump.c"⟩]
    let r : Reporter := { files := .fresh ["work"] }
    List.Forall₂ Step.SameButSink steps steps' ∧
      ∀ n, AlikeButSink (r.run ⟨true, 0x1000⟩ (steps.take n)).2 (r.run ⟨true, 0x1000⟩ (steps'.take n)).2 := by
  intro install install' steps steps' r
  have hinstall : install.SameButSink install' := by
    have hconfig : FaultConfig.ofText "[shared]\nservice_name = 'pump'\n[report]\nsink = 'text'" =
        .ok ⟨⟨.info, "pump"⟩, ⟨.text⟩, {}⟩ := by cbv
    have hconfig' : FaultConfig.ofText "[shared]\nservice_name = 'pump'\n[report]\nsink = 'none'" =
        .ok ⟨⟨.info, "pump"⟩, ⟨.silent⟩, {}⟩ := by cbv
    exact .install hconfig hconfig' ⟨rfl, rfl⟩
  have hsteps : List.Forall₂ Step.SameButSink steps steps' :=
    .cons (.same _) (.cons hinstall (.cons (.same _) .nil))
  exact ⟨hsteps, (run_differs_in_reports ⟨true, 0x1000⟩ r hsteps).2.1⟩

end Reporter
end PostMortem
