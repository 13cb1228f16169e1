import PostMortem.Proofs.Reporter.Halting
import PostMortem.Proofs.Reporter.Raised
import PostMortem.Proofs.Reporter.Runs

/-! # The way to the faulted state, which has no way back

A reporter is faulted from the first fault on that anything handles, be it the fault of a step or one that the save of
its record raises. No other step makes a reporter faulted, and none clears it. Whoever handles a fault halts, whatever
becomes of the record, and no signal brings a halted thread out of its loop.

* `Enters`: the faults that a step handles.
* `EntersOrPasses`: what a step does with the state.
* `faulted_run_iff_entered`: all steps of a run.
-/
set_option autoImplicit false

namespace PostMortem.Reporter

variable {α : Type}

/-- A step handles a fault in the state `r`: its own one, or one that the save of its record raises. -/
inductive Enters (build : Build) (r : Reporter) (s : Step α) : Fault → Prop
  | own {fault : Fault} : s.handled? build.capturesSites r.handler = some fault → Enters build r s fault
  | nested {fault : Fault} {id : RegionId} {pc : UInt32} {event : FaultEvent} :
    s.handled? build.capturesSites r.handler = some fault → r.storeBusy = false →
      r.store = some (.reentrant id pc event) → Enters build r s ⟨pc, event⟩

def Answer.isHalted : Answer α → Bool
  | .ended .halted => true
  | _ => false

/-- What a step does with the state `r`, and what it answers. -/
structure EntersOrPasses (build : Build) (r : Reporter) (s : Step α) (o : Observation α) (r' : Reporter) : Prop where
  /-- A step that handles a fault of its own ends with that, reports and deliveries aside. -/
  handled : ∀ fault, s.handled? build.capturesSites r.handler = some fault → ∃ log printed delivered,
    r.quiet.step build s = endCheck (.halted, handleFault build.payloadAddress fault.pc fault.event
      { r.quiet with log := log, printed := printed, delivered := delivered })
  faulted : r'.faulted = true ↔ r.faulted = true ∨ ∃ fault, Enters build r s fault
  halted : o.answer.isHalted = true ↔ ∃ fault, Enters build r s fault
  parked : r'.parked = r.parked + if o.answer.isHalted then 1 else 0
  logged : ∀ fault, Enters build r s fault →
    haltEntry (.capture build.payloadAddress fault.pc fault.event) ∈ o.log
  flag : s = .faulted → o.answer = .flag r.faulted
  /-- All threads of steps that have halted are still in their loops, whatever has happened to each of them. -/
  unpark : s = .unpark → r' = r.quiet ∧ ∀ histories : List (List Turn), histories.length = r.parked →
    o.answer = .count (histories.countP fun turns => !(Waiting.afterAll haltCode {} turns).hasLeft haltCode)

/-! ## Steps that handle no fault -/

theorem isHalted_done (result : Except StoreError Unit) : (done result : Answer α).isHalted = false := by
  cases result <;> rfl

/-- Neither faulted nor halted by what leads from one reporter to the other. -/
structure Untouched (r : Reporter) (ran : Answer α × Reporter) : Prop where
  faulted : ran.2.faulted = r.faulted
  parked : ran.2.parked = r.parked
  answer : ran.1.isHalted = false

theorem Serves.untouched {r : Reporter} {ran : Answer α × Reporter} (h : Serves r ran.2)
    (hanswer : ran.1.isHalted = false) : Untouched r ran := by
  obtain ⟨sink, store, regions, files, log, hran⟩ := h
  constructor
  · rw [hran]
  · rw [hran]
  · exact hanswer

section
variable (build : Build) (r : Reporter)

theorem isHalted_setStore (choice : StoreChoice) : (r.setStore (α := α) choice).1.isHalted = false := by
  cases choice with
  | file path =>
    unfold setStore
    dsimp only
    exact isHalted_done _
  | region | failing | reentrant => rfl

theorem isHalted_installText (document : String) : (r.installText (α := α) document).1.isHalted = false := by
  unfold installText
  split
  · rfl
  · dsimp only
    exact isHalted_done _

theorem isHalted_callFile (path : String) (call : StoreCall) :
    (r.callFile (α := α) path call).1.isHalted = false := by
  unfold callFile
  dsimp only
  split
  · rfl
  · cases call <;> rfl

theorem untouched_of_plain {s : Step α} (hs : s.Plain) (h : s.handled? build.capturesSites r.handler = none) :
    Untouched r (r.step build s) := by
  cases hs with
  | standardHandler => cases h
  | handleFault => cases h
  | setStore choice => exact (serves_setStore r choice).untouched (isHalted_setStore r choice)
  | install document => exact (serves_installText r document).untouched (isHalted_installText r document)
  | log pc event =>
    rw [step, logFault_append]
    exact ⟨rfl, rfl, rfl⟩
  | region id call =>
    refine (serves_callRegion r id call).untouched ?_
    cases call <;> rfl
  | file path call => exact (serves_callFile r path call).untouched (isHalted_callFile r path call)
  | remove path =>
    unfold step
    dsimp only
    split <;> exact ⟨rfl, rfl, rfl⟩
  | setHandler | setSink | sink | faulted | print | contents | unpark => exact ⟨rfl, rfl, rfl⟩

theorem untouched_of_unhandled {s : Step α} (h : s.handled? build.capturesSites r.handler = none) :
    Untouched r (r.step build s) := by
  rcases s.cases_raised build.capturesSites with ⟨fault, hraised⟩ | ⟨site, value, hpassed⟩ | hplain
  · have hkept : r.handler.forwards? fault = none := (handled?_of_raised hraised r.handler).symm.trans h
    rw [step_of_unwound build r hraised hkept]
    exact ⟨rfl, rfl, rfl⟩
  · rw [step_of_passed hpassed]
    exact ⟨rfl, rfl, rfl⟩
  · exact untouched_of_plain build r hplain h

/-! ## Steps that handle a fault -/

/-- What the handling of a fault leaves, whatever becomes of the record. -/
structure Entered (ran : Answer α × Reporter) : Prop where
  faulted : ran.2.faulted = true
  parked : ran.2.parked = r.parked + 1
  answer : ran.1.isHalted = true

variable {s : Step α}

theorem entered_of_handled {fault : Fault} (h : s.handled? build.capturesSites r.handler = some fault) :
    Entered r (r.step build s) := by
  obtain ⟨log, printed, delivered, hstep⟩ := step_of_handled build r h
  obtain ⟨regions, files, log', -, hhandled⟩ := handleFault_eq build.payloadAddress fault.pc fault.event
    { r with log := log, printed := printed, delivered := delivered }
  rw [hstep, hhandled]
  exact ⟨rfl, rfl, rfl⟩

theorem log_of_handled {fault : Fault} (h : s.handled? build.capturesSites r.handler = some fault) :
    ∃ log entries, (r.step build s).2.log =
        log ++ (entries ++ [haltEntry (.capture build.payloadAddress fault.pc fault.event)]) ∧
      ∀ id pc event, r.storeBusy = false → r.store = some (.reentrant id pc event) →
        haltEntry (.capture build.payloadAddress pc event) ∈ entries := by
  obtain ⟨log, printed, delivered, hstep⟩ := step_of_handled build r h
  obtain ⟨entries, hlog, -, hnested⟩ := log_handleFault build.payloadAddress fault.pc fault.event
    { r with log := log, printed := printed, delivered := delivered }
  rw [hstep]
  exact ⟨log, entries, hlog, hnested⟩

/-- The thread of a fault that is handled halts, and that of a nested one does too. -/
theorem logged_of_enters {fault : Fault} (h : Enters build r s fault) :
    haltEntry (.capture build.payloadAddress fault.pc fault.event) ∈ (r.step build s).2.log := by
  cases h with
  | own h =>
    obtain ⟨log, entries, hlog, -⟩ := log_of_handled build r h
    rw [hlog]
    exact List.mem_append_right _ (List.mem_append_right _ (List.mem_singleton_self _))
  | nested h hfree hstore =>
    obtain ⟨log, entries, hlog, hnested⟩ := log_of_handled build r h
    rw [hlog]
    exact List.mem_append_right _ (List.mem_append_left _ (hnested _ _ _ hfree hstore))

theorem not_enters_of_unhandled (h : s.handled? build.capturesSites r.handler = none) :
    ¬ ∃ fault, Enters build r s fault := by
  rintro ⟨fault, henters⟩
  cases henters with
  | own hhandled => simp [h] at hhandled
  | nested hhandled => simp [h] at hhandled

/-! ## All steps -/

theorem enters_quiet {fault : Fault} (h : Enters build r s fault) : Enters build r.quiet s fault := by
  cases h with
  | own hhandled => exact .own hhandled
  | nested hhandled hfree hstore => exact .nested hhandled hfree hstore

theorem observe_unpark {histories : List (List Turn)} (h : histories.length = r.parked) :
    (r.observe (α := α) build .unpark).1.answer =
      .count (histories.countP fun turns => !(Waiting.afterAll haltCode {} turns).hasLeft haltCode) := by
  have hall : histories.countP (fun turns => !(Waiting.afterAll haltCode {} turns).hasLeft haltCode) =
      histories.length := by
    rw [List.countP_eq_length]
    intro turns _
    rw [Waiting.hasLeft_afterAll]
    rfl
  rw [hall, h]
  rfl

theorem entersOrPasses (s : Step α) : EntersOrPasses build r s (r.observe build s).1 (r.observe build s).2 := by
  have hlogged : ∀ fault, Enters build r s fault →
      haltEntry (.capture build.payloadAddress fault.pc fault.event) ∈ (r.observe build s).1.log :=
    fun _ henters => logged_of_enters build r.quiet (enters_quiet build r henters)
  have hown : ∀ fault, s.handled? build.capturesSites r.handler = some fault → ∃ log printed delivered,
      r.quiet.step build s = endCheck (.halted, handleFault build.payloadAddress fault.pc fault.event
        { r.quiet with log := log, printed := printed, delivered := delivered }) :=
    fun _ hfault => step_of_handled build r.quiet hfault
  have hflag : s = .faulted → (r.observe build s).1.answer = .flag r.faulted := by
    rintro rfl
    rfl
  have hunpark : s = .unpark → (r.observe build s).2 = r.quiet ∧ ∀ histories : List (List Turn),
      histories.length = r.parked → (r.observe build s).1.answer =
        .count (histories.countP fun turns => !(Waiting.afterAll haltCode {} turns).hasLeft haltCode) := by
    rintro rfl
    exact ⟨rfl, fun _ hlength => observe_unpark build r hlength⟩
  cases hhandled : s.handled? build.capturesSites r.handler with
  | none =>
    have hnot := not_enters_of_unhandled build r hhandled
    obtain ⟨hfaulted, hparked, hanswer⟩ := untouched_of_unhandled build r.quiet hhandled
    have hanswer' : (r.observe build s).1.answer.isHalted = false := hanswer
    have hfaulted' : (r.observe build s).2.faulted = r.faulted := hfaulted
    refine ⟨hown, ?_, ?_, ?_, hlogged, hflag, hunpark⟩
    · rw [or_iff_left hnot, hfaulted']
    · rw [hanswer']
      exact iff_of_false Bool.false_ne_true hnot
    · rw [hanswer']
      exact hparked
  | some fault =>
    have henters : ∃ fault, Enters build r s fault := ⟨fault, .own hhandled⟩
    obtain ⟨hfaulted, hparked, hanswer⟩ := entered_of_handled build r.quiet hhandled
    have hanswer' : (r.observe build s).1.answer.isHalted = true := hanswer
    refine ⟨hown, iff_of_true hfaulted (.inr henters), iff_of_true hanswer henters, ?_, hlogged, hflag, hunpark⟩
    rw [hanswer']
    exact hparked

end

/-! ## Whole runs -/

theorem faulted_run (build : Build) (r : Reporter) (steps : List (Step α)) :
    (r.run build steps).2.faulted = true ↔ r.faulted = true ∨ ∃ (i : Nat) (s : Step α) (fault : Fault),
      steps[i]? = some s ∧ Enters build (r.run build (steps.take i)).2 s fault := by
  induction steps generalizing r with
  | nil => simp [run]
  | cons s rest ih =>
    have hfirst := (entersOrPasses build r s).faulted
    have hrest := ih (r.observe build s).2
    rw [hfirst, or_assoc] at hrest
    -- an entry of the whole run is one of the first step, or one of the rest at the index before
    refine hrest.trans (or_congr_right ?_)
    constructor
    · rintro (⟨fault, henters⟩ | ⟨i, later, fault, hlater, henters⟩)
      · exact ⟨0, s, fault, rfl, henters⟩
      · exact ⟨i + 1, later, fault, hlater, henters⟩
    · rintro ⟨i, later, fault, hlater, henters⟩
      cases i with
      | zero =>
        cases hlater
        exact .inl ⟨fault, henters⟩
      | succ i => exact .inr ⟨i, later, fault, hlater, henters⟩

theorem parked_run (build : Build) (r : Reporter) (steps : List (Step α)) :
    (r.run build steps).2.parked = r.parked + (r.run build steps).1.countP fun o => o.answer.isHalted := by
  induction steps generalizing r with
  | nil => rfl
  | cons s rest ih =>
    have hfirst := (entersOrPasses build r s).parked
    have hrest := ih (r.observe build s).2
    have hcount : (r.run build (s :: rest)).1.countP (fun o => o.answer.isHalted) =
        ((r.observe build s).2.run build rest).1.countP (fun o => o.answer.isHalted) +
          if (r.observe build s).1.answer.isHalted then 1 else 0 := List.countP_cons
    have hlast : (r.run build (s :: rest)).2.parked = ((r.observe build s).2.run build rest).2.parked := rfl
    omega

/-- **A reporter is faulted from the first fault on that is handled, and whoever handles one halts.** -/
theorem faulted_run_iff_entered (build : Build) (r : Reporter) (steps : List (Step α)) :
    ((r.run build steps).2.faulted = true ↔ r.faulted = true ∨ ∃ (i : Nat) (s : Step α) (fault : Fault),
      steps[i]? = some s ∧ Enters build (r.run build (steps.take i)).2 s fault) ∧
    (r.run build steps).2.parked = r.parked + (r.run build steps).1.countP (fun o => o.answer.isHalted) ∧
    (∀ turns : List Turn, (Waiting.afterAll haltCode {} turns).hasLeft haltCode = false ∧
      (Waiting.afterAll haltCode {} (turns ++ [.runs, .runs, .runs, .runs])).blocked = true) ∧
    (r.run build steps).1.length = steps.length ∧
    ∀ (i : Nat) (s : Step α) (o : Observation α), steps[i]? = some s → (r.run build steps).1[i]? = some o →
      EntersOrPasses build (r.run build (steps.take i)).2 s o (r.run build (steps.take (i + 1))).2 := by
  refine ⟨faulted_run build r steps, parked_run build r steps, ?_, length_run build r steps, ?_⟩
  · exact fun turns => ⟨Waiting.hasLeft_afterAll turns, Waiting.blocked_afterAll turns⟩
  · intro i s o hs ho
    rw [eq_observe_of_getElem?_run hs ho, state_run_take_succ build r hs]
    exact entersOrPasses build _ s

end PostMortem.Reporter
