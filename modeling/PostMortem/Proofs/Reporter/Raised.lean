import PostMortem.Proofs.Reporter.Handling

/-! # The fault that a step raises

A check comes to a verdict: it passes with a value, or it fails. One that fails is one explicit escalation, of a fault
that carries the place of the check if the build captures places; the other entry points are escalations too. What is
escalated goes to the installed handler, which may note it and may hand it on to the standard one, and what comes to
the standard handler is reported and handled. So a step handles one fault or none, and which one it is can be told from
the step and the handler alone.

* `Step.verdict?`: what a check comes to.
* `Step.raised?`, `Step.noted`, `Step.reported?`, `Step.handled?`: what becomes of a fault on its way.
* `observe_of_reported`, `step_of_handled`: what a step does that handles a fault.
-/
set_option autoImplicit false

namespace PostMortem

/-! ## Failures of checks -/

/-- How a check fails. -/
inductive Failure
  | error (code : StatusCode)
  | assertion
deriving DecidableEq, Repr

/-- The location that a fault at this place carries in a build that captures places, or in one that does not. -/
def CallSite.location? (captures : Bool) (site : CallSite) : Option Location :=
  if captures then some ⟨UInt16.ofNat (min site.line.toNat 65535), site.file⟩ else none

/-- The event of a failure at a place, if there is one. -/
def Failure.event (place : Option Location) : Failure → FaultEvent
  | error code => .error ⟨(place.map Location.line).getD 0, place.map Location.file, code⟩
  | assertion => .assertion ⟨(place.map Location.line).getD 0, place.map Location.file⟩

theorem clampLine_eq (line : UInt32) : clampLine line = UInt16.ofNat (min line.toNat 65535) := by
  unfold clampLine
  split
  · rename_i hle
    have hle' : line.toNat ≤ 65535 := hle
    rw [Nat.min_eq_left hle']
    rfl
  · rename_i hlt
    have hlt' : 65535 ≤ line.toNat := by
      have : ¬ line.toNat ≤ 65535 := hlt
      omega
    rw [Nat.min_eq_right hlt']
    rfl

theorem Failure.location?_event (place : Option Location) (failure : Failure) :
    (failure.event place).location? = place := by
  cases failure <;> cases place <;> rfl

theorem Failure.event_error (code : StatusCode) (place : Option Location) :
    ∃ info, (Failure.error code).event place = .error info ∧ info.code = code ∧ info.location? = place :=
  ⟨_, rfl, rfl, (Failure.error code).location?_event place⟩

theorem Failure.event_assertion (place : Option Location) :
    ∃ info, Failure.assertion.event place = .assertion info ∧ info.location? = place :=
  ⟨_, rfl, Failure.assertion.location?_event place⟩

theorem ErrorInfo.ofSite_eq (code : StatusCode) (site : CallSite) :
    FaultEvent.error (.ofSite code site) = (Failure.error code).event (site.location? true) := by
  rw [ErrorInfo.ofSite, clampLine_eq]
  rfl

theorem AssertInfo.ofSite_eq (site : CallSite) :
    FaultEvent.assertion (.ofSite site) = Failure.assertion.event (site.location? true) := by
  rw [AssertInfo.ofSite, clampLine_eq]
  rfl

namespace Reporter

variable {α : Type}

/-! ## Verdicts -/

/-- What a check at a place comes to: the value that it returns, if it has one, or its failure. Other steps are no
checks. -/
def Step.verdict? : Step α → Option (CallSite × Except Failure (Option α))
  | .checkResult code site => some (site, if code.raw = 0 then .ok none else .error (.error code))
  | .checkBool condition site => some (site, if condition then .ok none else .error (.error ⟨0⟩))
  | .checkAssert condition site => some (site, if condition then .ok none else .error .assertion)
  | .orFault (.ok value) site => some (site, .ok (some value))
  | .orFault (.error code) site => some (site, .error (.error code))
  | _ => none

theorem endThread_escalate {β : Type} (value : β → Option α) (address : UInt64) (pc : UInt32) (event : FaultEvent)
    (r : Reporter) : endThread value (r.escalate address pc event) = endCheck (r.escalate address pc event) := by
  unfold escalate
  split <;> rfl

theorem escalateCode_eq (build : Build) (code : StatusCode) (site : CallSite) (r : Reporter) {β : Type} :
    r.escalateCode (α := β) build code site =
      r.escalate build.payloadAddress pcUnavailable
        ((Failure.error code).event (site.location? build.capturesSites)) := by
  unfold escalateCode
  cases hcaptures : build.capturesSites with
  | true => exact congrArg (r.escalate build.payloadAddress pcUnavailable) (ErrorInfo.ofSite_eq code site)
  | false => rfl

theorem escalateAssert_eq (build : Build) (site : CallSite) (r : Reporter) {β : Type} :
    r.escalateAssert (α := β) build site =
      r.escalate build.payloadAddress pcUnavailable (Failure.assertion.event (site.location? build.capturesSites)) := by
  unfold escalateAssert
  cases hcaptures : build.capturesSites with
  | true => exact congrArg (r.escalate build.payloadAddress pcUnavailable) (AssertInfo.ofSite_eq site)
  | false => rfl

theorem isSuccess_iff (code : StatusCode) : code.isSuccess = true ↔ code.raw = 0 := by
  obtain ⟨raw⟩ := code
  simp [StatusCode.isSuccess, StatusCode.success]

section
variable {build : Build} {s : Step α} {site : CallSite}

theorem step_of_passed {value : Option α} (h : s.verdict? = some (site, .ok value)) (r : Reporter) :
    r.step build s = (.ended (.returned value), r) := by
  cases s with
  | checkResult code place =>
    by_cases hcode : code.raw = 0
    · have hsuccess : code.isSuccess = true := (isSuccess_iff code).mpr hcode
      rw [Step.verdict?, if_pos hcode] at h
      cases h
      rw [step, checkResult, if_pos hsuccess]
      rfl
    · rw [Step.verdict?, if_neg hcode] at h
      cases h
  | checkBool condition place => cases condition <;> cases h; rfl
  | checkAssert condition place => cases condition <;> cases h; rfl
  | orFault result place => cases result <;> cases h; rfl
  | _ => cases h

theorem step_of_failed {failure : Failure} (h : s.verdict? = some (site, .error failure)) (r : Reporter) :
    r.step build s = r.step build (.escalate pcUnavailable (failure.event (site.location? build.capturesSites))) := by
  cases s with
  | checkResult code place =>
    by_cases hcode : code.raw = 0
    · rw [Step.verdict?, if_pos hcode] at h
      cases h
    · have hfailed : ¬ code.isSuccess = true := fun hsuccess => hcode ((isSuccess_iff code).mp hsuccess)
      rw [Step.verdict?, if_neg hcode] at h
      cases h
      rw [step, checkResult, if_neg hfailed, escalateCode_eq]
      rfl
  | checkBool condition place =>
    cases condition <;> cases h
    exact congrArg endCheck (escalateCode_eq build .neutral site r)
  | checkAssert condition place =>
    cases condition <;> cases h
    exact congrArg endCheck (escalateAssert_eq build site r)
  | orFault result place =>
    cases result <;> cases h
    rename_i code
    rw [step, orFault, escalateCode_eq, endThread_escalate]
    rfl
  | _ => cases h

end

/-! ## From the step to the handling -/

/-- The fault that a step escalates. -/
def Step.raised? (captures : Bool) (s : Step α) : Option Fault :=
  match s.verdict? with
  | some (site, .error failure) => some ⟨pcUnavailable, failure.event (site.location? captures)⟩
  | some (_, .ok _) => none
  | none =>
    match s with
    | .handleCheckedResult code site => some ⟨pcUnavailable, (Failure.error code).event (site.location? true)⟩
    | .handleCheckedResultMinimal code => some ⟨pcUnavailable, (Failure.error code).event none⟩
    | .handleAssert site => some ⟨pcUnavailable, Failure.assertion.event (site.location? true)⟩
    | .handleAssertMinimal => some ⟨pcUnavailable, Failure.assertion.event none⟩
    | .escalate pc event => some ⟨pc, event⟩
    | _ => none

theorem raised?_of_failed {s : Step α} {site : CallSite} {failure : Failure}
    (h : s.verdict? = some (site, .error failure)) (captures : Bool) :
    s.raised? captures = some ⟨pcUnavailable, failure.event (site.location? captures)⟩ := by
  unfold Step.raised?
  rw [h]

theorem raised?_of_passed {s : Step α} {site : CallSite} {value : Option α}
    (h : s.verdict? = some (site, .ok value)) (captures : Bool) : s.raised? captures = none := by
  unfold Step.raised?
  rw [h]

/-- Steps that neither check nor escalate anything. -/
inductive Step.Plain : Step α → Prop
  | standardHandler (pc : UInt32) (event : FaultEvent) : Plain (.standardHandler pc event)
  | handleFault (pc : UInt32) (event : FaultEvent) : Plain (.handleFault pc event)
  | setHandler (handler : Handler) : Plain (.setHandler handler)
  | setSink (sink : SinkKind) : Plain (.setSink sink)
  | sink : Plain .sink
  | faulted : Plain .faulted
  | setStore (choice : StoreChoice) : Plain (.setStore choice)
  | install (document : String) : Plain (.install document)
  | log (pc : UInt32) (event : FaultEvent) : Plain (.log pc event)
  | print (pc : UInt32) (event : FaultEvent) : Plain (.print pc event)
  | region (id : RegionId) (call : StoreCall) : Plain (.region id call)
  | file (path : String) (call : StoreCall) : Plain (.file path call)
  | remove (path : String) : Plain (.remove path)
  | contents (path : String) : Plain (.contents path)
  | unpark : Plain .unpark

/-- A step raises a fault, or it is a check that passes, or it is neither a check nor an escalation. -/
theorem Step.cases_raised (captures : Bool) (s : Step α) :
    (∃ fault, s.raised? captures = some fault) ∨ (∃ site value, s.verdict? = some (site, .ok value)) ∨ s.Plain := by
  cases hverdict : s.verdict? with
  | some outcome =>
    obtain ⟨site, result⟩ := outcome
    cases result with
    | ok value => exact .inr (.inl ⟨site, value, rfl⟩)
    | error failure =>
      refine .inl ⟨⟨pcUnavailable, failure.event (site.location? captures)⟩, ?_⟩
      unfold Step.raised?
      rw [hverdict]
  | none =>
    cases s with
    | checkResult | checkBool | checkAssert => cases hverdict
    | orFault result site => cases result <;> cases hverdict
    | handleCheckedResult | handleCheckedResultMinimal | handleAssert | handleAssertMinimal | escalate =>
      exact .inl ⟨_, rfl⟩
    | _ =>
      right
      right
      constructor

end Reporter

/-- What a handler notes of a fault. -/
def Handler.notes (fault : Fault) : Handler → List Delivery
  | .standard => []
  | .recorder name => [⟨name, fault.pc, fault.event⟩]
  | .forwarder name => [⟨name, fault.pc, fault.event⟩]

/-- What a handler that is given a fault has the standard handler do, being it or handing on to it. -/
def Handler.forwards? (fault : Fault) : Handler → Option Fault
  | .standard => some fault
  | .recorder _ => none
  | .forwarder _ => some { fault with pc := fault.pc + 1 }

namespace Reporter

variable {α : Type}

/-- The deliveries that a step leaves under a handler. -/
def Step.noted (captures : Bool) (handler : Handler) (s : Step α) : List Delivery :=
  ((s.raised? captures).map fun fault => handler.notes fault).getD []

/-- The fault that a step brings to the standard handler. -/
def Step.reported? (captures : Bool) (handler : Handler) : Step α → Option Fault
  | .standardHandler pc event => some ⟨pc, event⟩
  | s => (s.raised? captures).bind fun fault => handler.forwards? fault

/-- The fault that a step handles. -/
def Step.handled? (captures : Bool) (handler : Handler) : Step α → Option Fault
  | .handleFault pc event => some ⟨pc, event⟩
  | s => s.reported? captures handler

section
variable {captures : Bool} {s : Step α} {fault : Fault} (h : s.raised? captures = some fault) (handler : Handler)
include h

theorem noted_of_raised : s.noted captures handler = handler.notes fault := by
  rw [Step.noted, h]
  rfl

theorem reported?_of_raised : s.reported? captures handler = handler.forwards? fault := by
  unfold Step.reported?
  split
  · cases h
  · rw [h]
    rfl

theorem handled?_of_raised : s.handled? captures handler = handler.forwards? fault := by
  unfold Step.handled?
  split
  · cases h
  · exact reported?_of_raised h handler

end

section
variable (build : Build) {s : Step α} {fault : Fault} (r : Reporter)

/-- A step that raises a fault is one escalation. -/
theorem step_of_raised (h : s.raised? build.capturesSites = some fault) :
    r.step build s = r.step build (.escalate fault.pc fault.event) := by
  unfold Step.raised? at h
  split at h
  · rename_i site failure hverdict
    cases h
    exact step_of_failed hverdict r
  · cases h
  · split at h <;> cases h
    · rename_i code site
      rw [← ErrorInfo.ofSite_eq]
      rfl
    · rfl
    · rename_i site
      rw [← AssertInfo.ofSite_eq]
      rfl
    · rfl
    · rfl

theorem step_of_unwound (h : s.raised? build.capturesSites = some fault) (hkept : r.handler.forwards? fault = none) :
    r.step build s =
      (.ended .unwound, { r with delivered := r.delivered ++ s.noted build.capturesSites r.handler }) := by
  rw [step_of_raised build r h, noted_of_raised h]
  obtain ⟨handler⟩ := r
  cases handler with
  | standard => cases hkept
  | recorder name => rfl
  | forwarder name => cases hkept

theorem observe_of_raised (h : s.raised? build.capturesSites = some fault) :
    r.observe build s = r.observe build (.escalate fault.pc fault.event) := by
  unfold observe
  rw [step_of_raised build r.quiet h]

theorem observe_of_unwound (h : s.raised? build.capturesSites = some fault) (hkept : r.handler.forwards? fault = none) :
    r.observe build s = (⟨.ended .unwound, [], [], s.noted build.capturesSites r.handler⟩, r.quiet) := by
  have hstep := step_of_unwound build r.quiet h hkept
  unfold observe
  rw [hstep]
  rfl

theorem observe_of_passed {site : CallSite} {value : Option α} (h : s.verdict? = some (site, .ok value)) :
    r.observe build s = (⟨.ended (.returned value), [], [], []⟩, r.quiet) := by
  unfold observe
  rw [step_of_passed h]
  rfl

theorem step_of_reported (h : s.reported? build.capturesSites r.handler = some fault) :
    r.step build s = endCheck (.halted, standardHandler build.payloadAddress fault.pc fault.event
      { r with delivered := r.delivered ++ s.noted build.capturesSites r.handler }) := by
  unfold Step.reported? at h
  split at h
  · cases h
    simp [step, Step.noted, Step.raised?, Step.verdict?]
  · obtain ⟨raised, hraised, hforwards⟩ := Option.bind_eq_some_iff.mp h
    rw [step_of_raised build r hraised, noted_of_raised hraised]
    obtain ⟨handler⟩ := r
    cases handler with
    | standard =>
      cases hforwards
      simp [step, escalate, Handler.notes]
    | recorder name => cases hforwards
    | forwarder name =>
      cases hforwards
      rfl

/-- The report, the handling and the delivery of a fault are apart in what a step shows. -/
theorem observe_of_reported (h : s.reported? build.capturesSites r.handler = some fault) :
    let handled := r.quiet.handleFault build.payloadAddress fault.pc fault.event
    r.observe build s =
      (⟨.ended .halted, r.sink.printed build.payloadAddress fault, r.sink.logged fault ++ handled.log,
        s.noted build.capturesSites r.handler⟩, { handled.quiet with parked := handled.parked + 1 }) := by
  have hstep := step_of_reported build r.quiet h
  rw [standardHandler_eq, handleFault_of_quiet] at hstep
  unfold observe
  rw [hstep]
  rfl

theorem step_of_handled (h : s.handled? build.capturesSites r.handler = some fault) :
    ∃ log printed delivered, r.step build s = endCheck (.halted, handleFault build.payloadAddress fault.pc fault.event
      { r with log := log, printed := printed, delivered := delivered }) := by
  unfold Step.handled? at h
  split at h
  · cases h
    exact ⟨r.log, r.printed, r.delivered, rfl⟩
  · rw [step_of_reported build r h, standardHandler_eq]
    exact ⟨_, _, _, rfl⟩

end

end Reporter
end PostMortem
