import PostMortem.Proofs.Reporter.Raised
import PostMortem.Proofs.Reporter.Runs

/-! # Builds that capture places, and builds that do not

A program can be built so that failed checks carry their place, or so that they do not. Both builds do the same: they
take the same states, and what they show differs in the places of failed checks alone, which the one build shows and
the other one leaves out.

* `withoutPlace`, `Observation.withoutPlaces`: events, log entries and all that a step shows, the places left out.
* `Reporter.SameButPlaces`: what a step shows in both builds.
* `Reporter.run_differs_in_places`: all steps of a run.
-/
set_option autoImplicit false

namespace PostMortem

/-! ## Places left out -/

def FaultEvent.withoutPlace : FaultEvent → FaultEvent
  | .error info => .error (.bare info.code)
  | .assertion _ => .assertion .bare
  | .unknown id info => .unknown id info

def LogField.isPlace : LogField → Bool
  | .line _ => true
  | .file _ => true
  | _ => false

def LogEntry.withoutPlace (entry : LogEntry) : LogEntry :=
  { entry with fields := entry.fields.filter fun field => !field.isPlace }

def Line.isPlace : Line → Bool
  | .lineNumber _ => true
  | .fileName _ => true
  | _ => false

def Report.withoutPlace (report : Report) : Report := report.filter fun line => !line.isPlace

def Delivery.withoutPlace (delivery : Delivery) : Delivery :=
  { delivery with event := delivery.event.withoutPlace }

theorem FaultEvent.withoutPlace_idem (event : FaultEvent) : event.withoutPlace.withoutPlace = event.withoutPlace := by
  cases event <;> rfl

theorem Failure.withoutPlace_event (place : Option Location) (failure : Failure) :
    (failure.event place).withoutPlace = failure.event none := by
  cases failure <;> rfl

theorem Failure.capture_event (address : UInt64) (pc : UInt32) (place : Option Location) (failure : Failure) :
    FaultRecord.capture address pc (failure.event place) = .capture address pc (failure.event none) := by
  cases failure <;> rfl

theorem SinkKind.logged_event (sink : SinkKind) (pc : UInt32) (place : Option Location) (failure : Failure) :
    (sink.logged ⟨pc, failure.event place⟩).map LogEntry.withoutPlace = sink.logged ⟨pc, failure.event none⟩ := by
  unfold SinkKind.logged
  split
  · cases failure <;> cases place <;> rfl
  · rfl

theorem SinkKind.printed_event (sink : SinkKind) (address : UInt64) (pc : UInt32) (place : Option Location)
    (failure : Failure) :
    (sink.printed address ⟨pc, failure.event place⟩).withoutPlace = sink.printed address ⟨pc, failure.event none⟩ := by
  unfold SinkKind.printed
  split
  · cases failure <;> cases place <;> rfl
  · rfl

namespace Reporter

variable {α : Type}

def Observation.withoutPlaces (o : Observation α) : Observation α :=
  ⟨o.answer, o.printed.withoutPlace, o.log.map LogEntry.withoutPlace, o.delivered.map Delivery.withoutPlace⟩

theorem withoutPlace_of_isHandling {entry : LogEntry} (h : IsHandling entry) : entry.withoutPlace = entry := by
  cases h <;> rfl

/-- Handling a fault logs no places. -/
theorem withoutPlace_log_handleFault (address : UInt64) (pc : UInt32) (event : FaultEvent) (r : Reporter) :
    (r.quiet.handleFault address pc event).log.map LogEntry.withoutPlace =
      (r.quiet.handleFault address pc event).log := by
  obtain ⟨entries, hlog, hentries, -⟩ := log_handleFault address pc event r.quiet
  have hall : ∀ entry ∈ entries ++ [haltEntry (.capture address pc event)], entry.withoutPlace = entry := by
    intro entry hentry
    rcases List.mem_append.mp hentry with hbefore | hlast
    · exact withoutPlace_of_isHandling (hentries entry hbefore)
    · rw [List.mem_singleton.mp hlast]
      rfl
  have hquiet : (r.quiet.handleFault address pc event).log = entries ++ [haltEntry (.capture address pc event)] := hlog
  rw [hquiet, List.map_congr_left hall, List.map_id']

/-! ## One step -/

/-- What a step does in both builds, whatever the state. -/
structure RaisedInBoth (address : UInt64) (s : Step α) : Prop where
  /-- Where the one build has the place of a failed check, the other one has none. -/
  error : ∀ site code, s.verdict? = some (site, .error (.error code)) → ∀ r : Reporter,
    r.step ⟨true, address⟩ s = r.step ⟨true, address⟩ (.escalate pcUnavailable (.error (.ofSite code site))) ∧
      r.step ⟨false, address⟩ s = r.step ⟨false, address⟩ (.escalate pcUnavailable (.error (.bare code)))
  assertion : ∀ site, s.verdict? = some (site, .error .assertion) → ∀ r : Reporter,
    r.step ⟨true, address⟩ s = r.step ⟨true, address⟩ (.escalate pcUnavailable (.assertion (.ofSite site))) ∧
      r.step ⟨false, address⟩ s = r.step ⟨false, address⟩ (.escalate pcUnavailable (.assertion .bare))
  /-- Steps that are no checks, the other entry points among them, do not know which build they are in. -/
  other : s.verdict? = none → ∀ r : Reporter, r.step ⟨false, address⟩ s = r.step ⟨true, address⟩ s

/-- What a step shows in a build that captures places, and in one that does not. -/
structure SameButPlaces (s : Step α) (full bare : Observation α) : Prop where
  answer : bare.answer = full.answer
  handlers : bare.delivered.map Delivery.withoutPlace = full.delivered.map Delivery.withoutPlace
  messages : bare.log.map (fun entry => (entry.severity, entry.message)) =
    full.log.map fun entry => (entry.severity, entry.message)
  check : s.verdict?.isSome → bare = full.withoutPlaces
  other : s.verdict? = none → bare = full

theorem step_of_verdict?_none {s : Step α} (h : s.verdict? = none) (address : UInt64) (r : Reporter) :
    r.step ⟨false, address⟩ s = r.step ⟨true, address⟩ s := by
  cases s with
  | orFault result site => cases result <;> cases h
  | checkResult | checkBool | checkAssert => cases h
  | _ => rfl

theorem raisedInBoth (address : UInt64) (s : Step α) : RaisedInBoth address s where
  error site code h r := by
    rw [ErrorInfo.ofSite_eq]
    exact ⟨step_of_failed h r, step_of_failed h r⟩
  assertion site h r := by
    rw [AssertInfo.ofSite_eq]
    exact ⟨step_of_failed h r, step_of_failed h r⟩
  other h r := step_of_verdict?_none h address r

section
variable {s : Step α} {site : CallSite} {failure : Failure} (h : s.verdict? = some (site, .error failure))
include h

theorem noted_withoutPlace (handler : Handler) :
    s.noted false handler = (s.noted true handler).map Delivery.withoutPlace := by
  have hevent : (failure.event (site.location? true)).withoutPlace = failure.event (site.location? false) :=
    failure.withoutPlace_event _
  rw [noted_of_raised (raised?_of_failed h false), noted_of_raised (raised?_of_failed h true), ← hevent]
  cases handler <;> rfl

theorem observe_of_kept {address : UInt64} {r : Reporter}
    (hkept : ∀ captures, r.handler.forwards? ⟨pcUnavailable, failure.event (site.location? captures)⟩ = none) :
    r.observe ⟨false, address⟩ s =
      ((r.observe ⟨true, address⟩ s).1.withoutPlaces, (r.observe ⟨true, address⟩ s).2) := by
  have hfull := observe_of_unwound ⟨true, address⟩ r (raised?_of_failed h true) (hkept true)
  have hbare := observe_of_unwound ⟨false, address⟩ r (raised?_of_failed h false) (hkept false)
  dsimp only at hfull hbare
  rw [hfull, hbare, noted_withoutPlace h]
  rfl

/-- What comes to the standard handler leaves the same state in both builds, since the record is the same. -/
theorem observe_of_forwarded {address : UInt64} {r : Reporter} (pc : UInt32)
    (hforwards : ∀ captures, r.handler.forwards? ⟨pcUnavailable, failure.event (site.location? captures)⟩ =
      some ⟨pc, failure.event (site.location? captures)⟩) :
    r.observe ⟨false, address⟩ s =
      ((r.observe ⟨true, address⟩ s).1.withoutPlaces, (r.observe ⟨true, address⟩ s).2) := by
  have hfull := observe_of_reported ⟨true, address⟩ r
    ((reported?_of_raised (raised?_of_failed h true) r.handler).trans (hforwards true))
  have hbare := observe_of_reported ⟨false, address⟩ r
    ((reported?_of_raised (raised?_of_failed h false) r.handler).trans (hforwards false))
  have hhandled : r.quiet.handleFault address pc (failure.event (site.location? true)) =
      r.quiet.handleFault address pc (failure.event (site.location? false)) :=
    handleFault_congr address pc _ r.quiet (failure.capture_event address pc _)
  dsimp only at hfull hbare
  rw [hhandled] at hfull
  rw [hfull, hbare, noted_withoutPlace h]
  refine Prod.ext ?_ rfl
  dsimp only
  rw [Observation.withoutPlaces]
  dsimp only
  rw [SinkKind.printed_event, List.map_append, SinkKind.logged_event, withoutPlace_log_handleFault]
  rfl

theorem observe_of_failed (address : UInt64) (r : Reporter) :
    r.observe ⟨false, address⟩ s =
      ((r.observe ⟨true, address⟩ s).1.withoutPlaces, (r.observe ⟨true, address⟩ s).2) := by
  cases hhandler : r.handler with
  | standard => exact observe_of_forwarded h pcUnavailable fun captures => by rw [hhandler]; rfl
  | recorder name => exact observe_of_kept h fun captures => by rw [hhandler]; rfl
  | forwarder name => exact observe_of_forwarded h (pcUnavailable + 1) fun captures => by rw [hhandler]; rfl

end

theorem SameButPlaces.of_check {s : Step α} {full : Observation α} (h : s.verdict?.isSome) :
    SameButPlaces s full full.withoutPlaces where
  answer := rfl
  handlers := by
    have hidem : Delivery.withoutPlace ∘ Delivery.withoutPlace = Delivery.withoutPlace := by
      funext delivery
      simp [Delivery.withoutPlace, FaultEvent.withoutPlace_idem]
    rw [Observation.withoutPlaces, List.map_map, hidem]
  messages := by
    rw [Observation.withoutPlaces, List.map_map]
    rfl
  check _ := rfl
  other hnone := by
    rw [hnone] at h
    cases h

theorem SameButPlaces.of_other {s : Step α} {full : Observation α} (h : s.verdict? = none) :
    SameButPlaces s full full where
  answer := rfl
  handlers := rfl
  messages := rfl
  check hsome := by
    rw [h] at hsome
    cases hsome
  other _ := rfl

theorem observe_builds (address : UInt64) (r : Reporter) (s : Step α) :
    SameButPlaces s (r.observe ⟨true, address⟩ s).1 (r.observe ⟨false, address⟩ s).1 ∧
      (r.observe ⟨false, address⟩ s).2 = (r.observe ⟨true, address⟩ s).2 := by
  cases hverdict : s.verdict? with
  | none =>
    have hsame : r.observe ⟨false, address⟩ s = r.observe ⟨true, address⟩ s := by
      unfold observe
      rw [step_of_verdict?_none hverdict]
    rw [hsame]
    exact ⟨.of_other hverdict, rfl⟩
  | some outcome =>
    have hcheck : s.verdict?.isSome := by
      rw [hverdict]
      rfl
    have hsame : r.observe ⟨false, address⟩ s =
        ((r.observe ⟨true, address⟩ s).1.withoutPlaces, (r.observe ⟨true, address⟩ s).2) := by
      obtain ⟨site, result⟩ := outcome
      cases result with
      | error failure => exact observe_of_failed hverdict address r
      | ok value =>
        rw [observe_of_passed ⟨true, address⟩ r hverdict, observe_of_passed ⟨false, address⟩ r hverdict]
        rfl
    rw [hsame]
    exact ⟨.of_check hcheck, rfl⟩

/-! ## Whole runs -/

/-- **Both builds take the same states, and show the same but for the places of failed checks.** -/
theorem run_differs_in_places (address : UInt64) (r : Reporter) (steps : List (Step α)) :
    let full := r.run ⟨true, address⟩ steps
    let bare := r.run ⟨false, address⟩ steps
    bare.2 = full.2 ∧ full.1.length = steps.length ∧ bare.1.length = steps.length ∧
      ∀ (i : Nat) (s : Step α) (o o' : Observation α), steps[i]? = some s → full.1[i]? = some o →
        bare.1[i]? = some o' → SameButPlaces s o o' ∧ RaisedInBoth address s := by
  intro full bare
  have hstates : ∀ steps : List (Step α), (r.run ⟨false, address⟩ steps).2 = (r.run ⟨true, address⟩ steps).2 := by
    intro steps
    have hsteps : List.Forall₂ Eq steps steps := List.forall₂_same.mpr fun _ _ => rfl
    refine (run_related Eq ?_ rfl hsteps).symm
    rintro r _ s _ rfl rfl
    exact (observe_builds address r s).2.symm
  refine ⟨hstates steps, length_run _ r steps, length_run _ r steps, ?_⟩
  intro i s o o' hs ho ho'
  have hbefore := hstates (steps.take i)
  rw [eq_observe_of_getElem?_run hs ho, eq_observe_of_getElem?_run hs ho', hbefore]
  exact ⟨(observe_builds address _ s).1, raisedInBoth address s⟩

end Reporter
end PostMortem
