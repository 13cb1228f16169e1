import PostMortem.Proofs.Reporter.Effects

/-! # What the handling of a fault depends on

A fault is handled without a look at the channels or at the sink: what is in the log stays in front of what is added,
and a reporter with another sink does the same. Of the fault itself only the record counts. The sink matters to the
report alone, which comes first and adds no more than the sink lets through.

* `Fault`: a fault as it is handed to a handler.
* `SinkKind.logged`, `SinkKind.printed`: what a sink lets through.
* `Reporter.standardHandler_eq`: the report and the handling apart.
-/
set_option autoImplicit false

namespace PostMortem

/-- A fault as it is handed to a handler. -/
structure Fault where
  pc : UInt32
  event : FaultEvent
deriving DecidableEq, Repr

namespace SinkKind

/-- What the log receives when a fault is reported through a sink. -/
def logged (sink : SinkKind) (fault : Fault) : List LogEntry :=
  if sink.logs then (LogEntry.ofFault? fault.pc fault.event).toList else []

/-- What standard output receives when a fault is reported through a sink. -/
def printed (sink : SinkKind) (address : UInt64) (fault : Fault) : Report :=
  if sink.prints then .ofFault address fault.pc fault.event else []

end SinkKind

namespace Reporter

variable (address : UInt64) (pc : UInt32) (event : FaultEvent) (r : Reporter)

/-! ## Reports -/

theorem logFault_append :
    r.logFault pc event = { r with log := r.log ++ (LogEntry.ofFault? pc event).toList } := by
  unfold logFault
  cases LogEntry.ofFault? pc event with
  | none => simp
  | some entry => rfl

theorem report_append :
    r.report address pc event =
      { r with
        log := r.log ++ r.sink.logged ⟨pc, event⟩
        printed := r.printed ++ r.sink.printed address ⟨pc, event⟩ } := by
  have hlogged : (if r.sink.logs then r.logFault pc event else r) =
      { r with log := r.log ++ r.sink.logged ⟨pc, event⟩ } := by
    unfold SinkKind.logged
    split
    · exact logFault_append pc event r
    · simp
  unfold report SinkKind.printed
  dsimp only
  rw [hlogged]
  split
  · rfl
  · simp

/-! ## Handling -/

theorem standardHandler_eq :
    r.standardHandler address pc event =
      handleFault address pc event { r with
        log := r.log ++ r.sink.logged ⟨pc, event⟩
        printed := r.printed ++ r.sink.printed address ⟨pc, event⟩ } :=
  congrArg (handleFault address pc event) (report_append address pc event r)

/-- Two faults with one record are handled alike. -/
theorem handleFault_congr {pc' : UInt32} {event' : FaultEvent}
    (h : FaultRecord.capture address pc' event' = .capture address pc event) :
    r.handleFault address pc' event' = r.handleFault address pc event := by
  unfold handleFault
  rw [h]

/-- What the channels hold is not touched: entries are added to the log, and nothing else. -/
theorem handleFault_of_quiet :
    r.handleFault address pc event =
      { r.quiet.handleFault address pc event with
        log := r.log ++ (r.quiet.handleFault address pc event).log
        printed := r.printed
        delivered := r.delivered } := by
  -- with the fields at hand both sides compute, but for the order in which entries are put together
  obtain ⟨handler, sink, store, busy, faulted, regions, files, parked, log, printed, delivered⟩ := r
  cases busy with
  | true => rfl
  | false =>
    cases store with
    | none => rfl
    | some store =>
      cases store with
      | region id => rfl
      | file m => rfl
      | failing e => simp [handleFault, persist, saveIn, tell, quiet, enterFault, saveRegion, setRegion]
      | reentrant id nestedPc nested =>
        simp [handleFault, persist, saveIn, handleWhileBusy, tell, quiet, enterFault, saveRegion, setRegion]

/-- The sink is not consulted and not changed. -/
theorem handleFault_withSink (sink : SinkKind) :
    handleFault address pc event { r with sink := sink } = { r.handleFault address pc event with sink := sink } := by
  obtain ⟨handler, _, store, busy, faulted, regions, files, parked, log, printed, delivered⟩ := r
  cases busy with
  | true => rfl
  | false =>
    cases store with
    | none => rfl
    | some store => cases store <;> rfl

/-! ## What is added to the log -/

/-- An entry that the handling of a fault leaves: the warning of a failed save, or the last entry of a thread that
halts. -/
inductive IsHandling : LogEntry → Prop
  | warning (e : StoreError) : IsHandling (saveWarning e)
  | halt (record : FaultRecord) : IsHandling (haltEntry record)

/-- What is logged before the halt: that a save failed, or that the thread of a nested fault halts. -/
theorem log_handleFault :
    ∃ entries, (r.handleFault address pc event).log =
        r.log ++ (entries ++ [haltEntry (.capture address pc event)]) ∧ (∀ entry ∈ entries, IsHandling entry) ∧
      ∀ id pc event, r.storeBusy = false → r.store = some (.reentrant id pc event) →
        haltEntry (.capture address pc event) ∈ entries := by
  obtain ⟨handler, sink, store, busy, faulted, regions, files, parked, log, printed, delivered⟩ := r
  cases busy with
  | true => exact ⟨[], rfl, by simp, by simp⟩
  | false =>
    cases store with
    | none => exact ⟨[], rfl, by simp, by simp⟩
    | some store =>
      cases store with
      | region id => exact ⟨[], rfl, by simp, by simp⟩
      | file m => exact ⟨[], rfl, by simp, by simp⟩
      | failing e =>
        refine ⟨[saveWarning e], ?_, ?_, by simp⟩
        · simp [handleFault, persist, saveIn, tell, enterFault, saveRegion, setRegion]
        · simpa using IsHandling.warning e
      | reentrant id nestedPc nested =>
        refine ⟨[haltEntry (.capture address nestedPc nested)], ?_, ?_, ?_⟩
        · simp [handleFault, persist, saveIn, handleWhileBusy, tell, enterFault, saveRegion, setRegion]
        · simpa using IsHandling.halt _
        · rintro _ _ _ - ⟨⟩
          exact List.mem_singleton_self _

/-! ## Stores and files -/

/-- What work on stores and files leaves as it is: a reporter takes it up in its sink, store, regions, files and log. -/
def Serves (r r' : Reporter) : Prop :=
  ∃ sink store regions files log,
    r' = { r with sink := sink, store := store, regions := regions, files := files, log := log }

section
variable {α : Type}

theorem serves_openStore (path : String) : Serves r (r.openStore path).2 := by
  unfold openStore
  dsimp only
  cases MappedRecord.openOrCreate path r.files with
  | mk result files => cases result <;> exact ⟨_, _, _, _, _, rfl⟩

theorem serves_setStore (choice : StoreChoice) : Serves r (r.setStore (α := α) choice).2 := by
  cases choice with
  | file path =>
    unfold setStore
    dsimp only
    exact serves_openStore r path
  | region | failing | reentrant => exact ⟨_, _, _, _, _, rfl⟩

theorem Installs.serves {config : FaultConfig} {result : Except StoreError Unit} {after : Reporter}
    (h : Installs config r result after) : Serves r after := by
  cases h <;> exact ⟨_, _, _, _, _, rfl⟩

theorem serves_install (config : FaultConfig) : Serves r (r.install config).2 := (installs config r).serves

theorem serves_installText (document : String) : Serves r (r.installText (α := α) document).2 := by
  unfold installText
  split
  · exact ⟨r.sink, r.store, r.regions, r.files, r.log, rfl⟩
  · exact serves_install r _

theorem serves_callRegion (id : RegionId) (call : StoreCall) : Serves r (r.callRegion (α := α) id call).2 := by
  cases call <;> exact ⟨_, _, _, _, _, rfl⟩

theorem serves_callFile (path : String) (call : StoreCall) : Serves r (r.callFile (α := α) path call).2 := by
  unfold callFile
  dsimp only
  cases MappedRecord.openExisting path r.files with
  | mk result files =>
    cases result with
    | error e => exact ⟨_, _, _, _, _, rfl⟩
    | ok m => cases call <;> exact ⟨_, _, _, _, _, rfl⟩

end

end Reporter
end PostMortem
