import PostMortem.Proofs.Reporter.Raised
import PostMortem.Proofs.Reporter.Runs

/-! # What a row of checks escalates

Of the checks of a program, those that fail call the handler that is installed at that moment, once each and in their
order; those that pass return and leave no trace. So a program that does nothing but check and select handlers is as
good as the row of its calls.

* `callsOf`: the calls of a row of checks.
* `EscalatesOnce`: what one of the steps does.
* `run_calls_once`: all steps of a run, and the run as a whole.
-/
set_option autoImplicit false

namespace PostMortem.Reporter

variable {α : Type}

/-- A fault, and the handler that is called with it. -/
structure Call where
  handler : Handler
  fault : Fault
deriving DecidableEq, Repr

/-- The steps that make a call, and nothing else. -/
def Call.steps (call : Call) : List (Step α) :=
  [.setHandler call.handler, .escalate call.fault.pc call.fault.event]

/-- The handler that a step installs. -/
def Step.installs? : Step α → Option Handler
  | .setHandler handler => some handler
  | _ => none

/-- The calls that a row of checks makes, if a handler is installed at first. -/
def callsOf (captures : Bool) : Handler → List (Step α) → List Call
  | _, [] => []
  | handler, s :: rest =>
    match s.raised? captures with
    | some fault => ⟨handler, fault⟩ :: callsOf captures handler rest
    | none => callsOf captures (s.installs?.getD handler) rest

/-- Steps that check something, or that select a handler. -/
inductive Step.Checks : Step α → Prop
  | check {s : Step α} : s.verdict?.isSome → Checks s
  | setHandler (handler : Handler) : Checks (.setHandler handler)

/-- What a check does, or the selection of a handler, in the state `r`. -/
structure EscalatesOnce (build : Build) (r : Reporter) (s : Step α) (o : Observation α) (r' : Reporter) : Prop where
  selected : ∀ handler, s = .setHandler handler → o = ⟨.nothing, [], [], []⟩ ∧ r' = { r.quiet with handler := handler }
  passed : ∀ site value, s.verdict? = some (site, .ok value) → o = ⟨.ended (.returned value), [], [], []⟩ ∧ r' = r.quiet
  /-- A failed check is one escalation, of an error without a program counter. -/
  error : ∀ site code, s.verdict? = some (site, .error (.error code)) →
    ∃ info, info.code = code ∧ info.location? = site.location? build.capturesSites ∧
      (o, r') = r.observe build (.escalate pcUnavailable (.error info)) ∧
        o.delivered = r.handler.notes ⟨pcUnavailable, .error info⟩
  assertion : ∀ site, s.verdict? = some (site, .error .assertion) →
    ∃ info, info.location? = site.location? build.capturesSites ∧
      (o, r') = r.observe build (.escalate pcUnavailable (.assertion info)) ∧
        o.delivered = r.handler.notes ⟨pcUnavailable, .assertion info⟩

/-- All that is shown in a row, channel by channel. -/
def shown (os : List (Observation α)) : Report × List LogEntry × List Delivery :=
  (os.flatMap fun o => o.printed, os.flatMap fun o => o.log, os.flatMap fun o => o.delivered)

/-! ## One step -/

section
variable (build : Build) (r : Reporter) {s : Step α}

/-- A fault that is raised is noted by the handler, and leaves it installed. -/
theorem handler_of_raised {fault : Fault} (h : s.raised? build.capturesSites = some fault) :
    (r.observe build s).1.delivered = r.handler.notes fault ∧ (r.observe build s).2.handler = r.handler := by
  rw [← noted_of_raised h]
  cases hforwards : r.handler.forwards? fault with
  | none =>
    rw [observe_of_unwound build r h hforwards]
    exact ⟨rfl, rfl⟩
  | some reported =>
    have hobserve := observe_of_reported build r ((reported?_of_raised h r.handler).trans hforwards)
    obtain ⟨regions, files, log, -, hhandled⟩ :=
      handleFault_eq build.payloadAddress reported.pc reported.event r.quiet
    dsimp only at hobserve
    rw [hobserve, hhandled]
    exact ⟨rfl, rfl⟩

end

theorem escalatesOnce (build : Build) (r : Reporter) (s : Step α) :
    EscalatesOnce build r s (r.observe build s).1 (r.observe build s).2 where
  selected handler h := by
    subst h
    exact ⟨rfl, rfl⟩
  passed site value h := by
    rw [observe_of_passed build r h]
    exact ⟨rfl, rfl⟩
  error site code h := by
    have hraised := raised?_of_failed h build.capturesSites
    obtain ⟨info, hevent, hcode, hlocation⟩ := Failure.event_error code (site.location? build.capturesSites)
    rw [hevent] at hraised
    have hobserve := observe_of_raised build r hraised
    exact ⟨info, hcode, hlocation, hobserve, (handler_of_raised build r hraised).1⟩
  assertion site h := by
    have hraised := raised?_of_failed h build.capturesSites
    obtain ⟨info, hevent, hlocation⟩ := Failure.event_assertion (site.location? build.capturesSites)
    rw [hevent] at hraised
    have hobserve := observe_of_raised build r hraised
    exact ⟨info, hlocation, hobserve, (handler_of_raised build r hraised).1⟩

/-! ## Rows of calls -/

/-- Two reporters that are alike but for the handler and for what the channels hold. -/
def AlikeButHandler (r r' : Reporter) : Prop := r'.quiet = { r.quiet with handler := r'.handler }

theorem AlikeButHandler.refl (r : Reporter) : AlikeButHandler r r := rfl

theorem observe_congr {r r' : Reporter} (h : r'.quiet = r.quiet) (build : Build) (s : Step α) :
    r'.observe build s = r.observe build s := by
  unfold observe
  rw [h]

theorem shown_cons_silent (answer : Answer α) (os : List (Observation α)) :
    shown (⟨answer, [], [], []⟩ :: os) = shown os := rfl

theorem shown_cons_congr (o : Observation α) {os os' : List (Observation α)} (h : shown os' = shown os) :
    shown (o :: os') = shown (o :: os) := by
  obtain ⟨hprinted, hrest⟩ := Prod.mk.inj h
  obtain ⟨hlog, hdelivered⟩ := Prod.mk.inj hrest
  simp only [shown, List.flatMap_cons, hprinted, hlog, hdelivered]

section
variable {captures : Bool} {s : Step α} (handler : Handler) (rest : List (Step α))

theorem callsOf_of_raised {fault : Fault} (h : s.raised? captures = some fault) :
    callsOf captures handler (s :: rest) = ⟨handler, fault⟩ :: callsOf captures handler rest := by
  rw [callsOf, h]

theorem callsOf_of_passed {site : CallSite} {value : Option α} (h : s.verdict? = some (site, .ok value)) :
    callsOf captures handler (s :: rest) = callsOf captures handler rest := by
  have hinstalls : s.installs? = none := by
    cases s with
    | setHandler => cases h
    | _ => rfl
  rw [callsOf, raised?_of_passed h, hinstalls]
  rfl

end

/-- The steps of a call do what the failed check does, whatever handler is installed before. -/
theorem run_call_steps {build : Build} {r r' : Reporter} (halike : AlikeButHandler r r') {s : Step α} {fault : Fault}
    (h : s.raised? build.capturesSites = some fault) (more : List (Step α)) :
    let ran := r'.run build (Call.steps ⟨r.handler, fault⟩ ++ more)
    shown ran.1 = shown ((r.observe build s).1 :: ((r.observe build s).2.run build more).1) ∧
      ran.2 = ((r.observe build s).2.run build more).2 := by
  have hquiet : (r'.observe (α := α) build (.setHandler r.handler)).2.quiet = r.quiet := by
    have hset : (r'.observe (α := α) build (.setHandler r.handler)).2.quiet =
      { r'.quiet with handler := r.handler } := rfl
    rw [hset, halike]
    rfl
  have hraised := observe_congr hquiet build (.escalate (α := α) fault.pc fault.event)
  rw [← observe_of_raised build r h] at hraised
  dsimp only
  rw [Call.steps, List.cons_append, List.cons_append, List.nil_append, run_cons, run_cons, hraised]
  exact ⟨shown_cons_silent _ _, rfl⟩

theorem run_calls (build : Build) {steps : List (Step α)} (h : ∀ s ∈ steps, s.Checks) {r r' : Reporter}
    (halike : AlikeButHandler r r') :
    let told := r'.run (α := α) build ((callsOf build.capturesSites r.handler steps).flatMap Call.steps)
    shown told.1 = shown (r.run build steps).1 ∧ AlikeButHandler (r.run build steps).2 told.2 := by
  -- a call installs its handler first, so the other run need not have followed the selections in between
  induction steps generalizing r r' with
  | nil => exact ⟨rfl, halike⟩
  | cons s rest ih =>
    have hrest : ∀ s ∈ rest, s.Checks := fun s hs => h s (List.mem_cons_of_mem _ hs)
    cases h s List.mem_cons_self with
    | setHandler handler =>
      have hset : AlikeButHandler (r.observe (α := α) build (.setHandler handler)).2 r' := halike
      exact ih hrest hset
    | check hcheck =>
      obtain ⟨⟨site, result⟩, hverdict⟩ := Option.isSome_iff_exists.mp hcheck
      rw [run_cons]
      cases result with
      | ok value =>
        have hpassed : AlikeButHandler r.quiet r' := halike
        rw [callsOf_of_passed r.handler rest hverdict, observe_of_passed build r hverdict, shown_cons_silent]
        exact ih hrest hpassed
      | error failure =>
        have hraised := raised?_of_failed hverdict build.capturesSites
        have hhandler := (handler_of_raised build r hraised).2
        have hrun := ih hrest (AlikeButHandler.refl (r.observe build s).2)
        rw [hhandler] at hrun
        obtain ⟨hshown, hstate⟩ := run_call_steps halike hraised
          ((callsOf build.capturesSites r.handler rest).flatMap Call.steps)
        rw [callsOf_of_raised r.handler rest hraised, List.flatMap_cons]
        dsimp only at hshown hstate ⊢
        rw [hshown, hstate]
        exact ⟨shown_cons_congr _ hrun.1, hrun.2⟩

/-! ## Whole runs -/

theorem map_fault_callsOf (captures : Bool) (handler : Handler) (steps : List (Step α)) :
    (callsOf captures handler steps).map Call.fault = steps.filterMap fun s => s.raised? captures := by
  induction steps generalizing handler with
  | nil => rfl
  | cons s rest ih =>
    rw [callsOf]
    cases hraised : s.raised? captures with
    | some fault => rw [List.filterMap_cons_some hraised, List.map_cons, ih]
    | none => rw [List.filterMap_cons_none hraised, ih]

theorem delivered_calls (build : Build) (r : Reporter) (calls : List Call) :
    (r.run (α := α) build (calls.flatMap Call.steps)).1.flatMap (fun o => o.delivered) =
      calls.flatMap fun call => call.handler.notes call.fault := by
  induction calls generalizing r with
  | nil => rfl
  | cons call rest ih =>
    have hraised : Step.raised? (α := α) build.capturesSites (.escalate call.fault.pc call.fault.event) =
      some call.fault := rfl
    have hnoted := (handler_of_raised build (r.observe (α := α) build (.setHandler call.handler)).2 hraised).1
    rw [List.flatMap_cons, Call.steps, List.cons_append, List.cons_append, List.nil_append, run_cons, run_cons]
    rw [List.flatMap_cons, List.flatMap_cons, List.flatMap_cons, ih, hnoted]
    rfl

/-- **Checks call the installed handler once when they fail, and do nothing when they pass.** -/
theorem run_calls_once (build : Build) (r : Reporter) {steps : List (Step α)} (h : ∀ s ∈ steps, s.Checks) :
    let calls := callsOf build.capturesSites r.handler steps
    let told := r.run (α := α) build (calls.flatMap Call.steps)
    calls.map Call.fault = (steps.filterMap fun s => s.raised? build.capturesSites) ∧
      ((r.run build steps).1.flatMap fun o => o.delivered) = (calls.flatMap fun call => call.handler.notes call.fault) ∧
        (shown told.1 = shown (r.run build steps).1 ∧ AlikeButHandler (r.run build steps).2 told.2) ∧
          (r.run build steps).1.length = steps.length ∧
            ∀ (i : Nat) (s : Step α) (o : Observation α), steps[i]? = some s → (r.run build steps).1[i]? = some o →
              EscalatesOnce build (r.run build (steps.take i)).2 s o (r.run build (steps.take (i + 1))).2 := by
  intro calls told
  have htold := run_calls build h (AlikeButHandler.refl r)
  have hdelivered : ((r.run build steps).1.flatMap fun o => o.delivered) = told.1.flatMap fun o => o.delivered :=
    congrArg (fun channels => channels.2.2) htold.1.symm
  have hnoted := hdelivered.trans (delivered_calls build r calls)
  refine ⟨map_fault_callsOf _ _ _, hnoted, htold, length_run build r steps, ?_⟩
  intro i s o hs ho
  rw [eq_observe_of_getElem?_run hs ho, state_run_take_succ build r hs]
  exact escalatesOnce build _ s

/-- A failure with the code zero is delivered like any other, and a line that is too large is cut down. -/
theorem run_calls_once_of_neutral_failures :
    let site : CallSite := ⟨70000, "pump.c"⟩
    let steps : List (Step Nat) :=
      [.setHandler (.recorder "one"), .checkResult ⟨0⟩ site, .checkBool false site, .setHandler (.recorder "other"),
        .orFault (.ok 3) site, .orFault (.error ⟨0⟩) site, .checkAssert true site]
    let r : Reporter := { files := .fresh ["work"] }
    (∀ s ∈ steps, s.Checks) ∧
      ((r.run ⟨true, 0x1000⟩ steps).1.flatMap fun o => o.delivered) =
        [⟨"one", 0, .error ⟨65535, some "pump.c", ⟨0⟩⟩⟩, ⟨"other", 0, .error ⟨65535, some "pump.c", ⟨0⟩⟩⟩] := by
  intro site steps r
  have hsteps : ∀ s ∈ steps, s.Checks := by
    simp only [steps, List.forall_mem_cons]
    exact ⟨.setHandler _, .check rfl, .check rfl, .setHandler _, .check rfl, .check rfl, .check rfl, by simp⟩
  exact ⟨hsteps, (run_calls_once ⟨true, 0x1000⟩ r hsteps).2.1⟩

end PostMortem.Reporter
