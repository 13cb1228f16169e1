import PostMortem.Proofs.Store.Changes
import PostMortem.Reporter.Step

/-! # What one step of a reporter does

A reporter has two dozen kinds of steps, and they come down to a few effects: something is shown, a thread halts over a
fault, a handler or a sink is selected, a store is put in, a record file is opened as the store or refused, a region or
a record file is written, a file is removed. Checks that pass and questions show nothing new. What holds of all steps is
proved by cases on the effect, not on the step.
-/
set_option autoImplicit false

namespace PostMortem.Reporter
open FileTree MappedRecord

/-! ## Effects -/

/-- What one step can do. -/
inductive Effect (r : Reporter) : Reporter → Prop
  | shows (log : List LogEntry) (printed : Report) (delivered : List Delivery) :
    Effect r { r with log := log, printed := printed, delivered := delivered }
  | halts (log : List LogEntry) (printed : Report) (delivered : List Delivery) (address : UInt64) (pc : UInt32)
      (event : FaultEvent) {after : Reporter} :
    after = handleFault address pc event { r with log := log, printed := printed, delivered := delivered } →
      Effect r { after with parked := after.parked + 1 }
  | selects (handler : Handler) (sink : SinkKind) : Effect r { r with handler := handler, sink := sink }
  | equips (store : Store) (sink : SinkKind) (log : List LogEntry) :
    (∀ m, store ≠ .file m) → Effect r { r with store := some store, sink := sink, log := log }
  | opens (path : String) (sink : SinkKind) (log : List LogEntry) {m : MappedRecord} {files : FileTree} :
    openOrCreate path r.files = (.ok m, files) →
      Effect r { r with store := some (.file m), files := files, sink := sink, log := log }
  | refuses (path : String) (sink : SinkKind) (log : List LogEntry) {e : StoreError} {files : FileTree} :
    openOrCreate path r.files = (.error e, files) → Effect r { r with files := files, sink := sink, log := log }
  | writesRegion (id : RegionId) (region : Region) : Effect r (r.setRegion id region)
  | saves (path : String) (m : MappedRecord) (record : FaultRecord) (log : List LogEntry) :
    openExisting path r.files = (.ok m, r.files) → Effect r { r with files := m.save record r.files, log := log }
  | clears (path : String) (m : MappedRecord) (log : List LogEntry) :
    openExisting path r.files = (.ok m, r.files) → Effect r { r with files := m.clear r.files, log := log }
  | removes (path : String) (files : FileTree) :
    r.files.removeFile (.parse path) = .ok files → Effect r { r with files := files }

theorem Effect.nothing (r : Reporter) : Effect r r := .shows r.log r.printed r.delivered

/-! ## Reports -/

theorem logFault_eq (pc : UInt32) (event : FaultEvent) (r : Reporter) :
    ∃ log, r.logFault pc event = { r with log := log } := by
  unfold logFault
  split <;> exact ⟨_, rfl⟩

theorem report_eq (address : UInt64) (pc : UInt32) (event : FaultEvent) (r : Reporter) :
    ∃ log printed, r.report address pc event = { r with log := log, printed := printed } := by
  have hlogged : ∃ log, (if r.sink.logs then r.logFault pc event else r) = { r with log := log } := by
    split
    · exact logFault_eq pc event r
    · exact ⟨r.log, rfl⟩
  obtain ⟨log, hlogged⟩ := hlogged
  unfold report
  dsimp only
  rw [hlogged]
  split
  · exact ⟨log, _, rfl⟩
  · exact ⟨log, r.printed, rfl⟩

/-! ## Faults and checks -/

/-- A fault is handled without any effect on handler, sink and store, and with at most one save to a file. -/
theorem handleFault_eq (address : UInt64) (pc : UInt32) (event : FaultEvent) (r : Reporter) :
    ∃ regions files log, RecordWork r.files files ∧ r.handleFault address pc event =
      { r with faulted := true, regions := regions, files := files, log := log } := by
  -- with the fields at hand both sides compute, once it is known which store there is and whether it is free
  obtain ⟨handler, sink, store, busy, faulted, regions, files, parked, log, printed, delivered⟩ := r
  cases busy with
  | true => exact ⟨_, _, _, .nothing _, rfl⟩
  | false =>
    cases store with
    | none => exact ⟨_, _, _, .nothing _, rfl⟩
    | some store =>
      cases store with
      | region id => exact ⟨_, _, _, .nothing _, rfl⟩
      | file m => exact ⟨_, _, _, .saves m (.capture address pc event) files, rfl⟩
      | failing e => exact ⟨_, _, _, .nothing _, rfl⟩
      | reentrant id nestedPc nested => exact ⟨_, _, _, .nothing _, rfl⟩

theorem standardHandler_effect (address : UInt64) (pc : UInt32) (event : FaultEvent) (delivered : List Delivery)
    (r : Reporter) {after : Reporter}
    (hafter : after = standardHandler address pc event { r with delivered := delivered }) :
    Effect r { after with parked := after.parked + 1 } := by
  subst hafter
  obtain ⟨log, printed, hreport⟩ := report_eq address pc event { r with delivered := delivered }
  exact .halts log printed delivered address pc event (congrArg (handleFault address pc event) hreport)

theorem escalate_effect {α β : Type} (value : β → Option α) (address : UInt64) (pc : UInt32) (event : FaultEvent)
    (r : Reporter) : Effect r (endThread value (r.escalate address pc event)).2 := by
  unfold escalate
  split
  · exact standardHandler_effect address pc event r.delivered r rfl
  · exact .shows r.log r.printed _
  · exact standardHandler_effect address (pc + 1) event _ r rfl

section
variable {α β : Type} (value : β → Option α) (build : Build) (site : CallSite) (r : Reporter)

theorem escalateCode_effect (code : StatusCode) : Effect r (endThread value (r.escalateCode build code site)).2 := by
  unfold escalateCode
  split <;> exact escalate_effect value _ _ _ r

theorem escalateAssert_effect : Effect r (endThread value (r.escalateAssert build site)).2 := by
  unfold escalateAssert
  split <;> exact escalate_effect value _ _ _ r

theorem unless_effect {condition : Prop} [Decidable condition] (passed : β) {escalated : Ending β × Reporter}
    (h : Effect r (endThread value escalated).2) :
    Effect r (endThread value (if condition then (.returned passed, r) else escalated)).2 := by
  split
  · exact Effect.nothing r
  · exact h

theorem orFault_effect (result : Except StatusCode β) : Effect r (endThread value (r.orFault build result site)).2 := by
  cases result with
  | ok passed => exact Effect.nothing r
  | error code => exact escalateCode_effect value build site r code

end

/-! ## Installations -/

/-- What an installation can do. The sink is in place before a record file is opened, and stays if that fails. -/
inductive Installs (config : FaultConfig) (r : Reporter) : Except StoreError Unit → Reporter → Prop
  | retained : config.store.backend = .retained →
    Installs config r (.ok ()) { r with
      sink := config.report.sink
      store := some (.region .processWide)
      log := r.log ++ [installEntry config] }
  | opened {m : MappedRecord} {files : FileTree} : config.store.backend = .file →
    openOrCreate config.store.recordPath r.files = (.ok m, files) →
      Installs config r (.ok ()) { r with
        sink := config.report.sink
        store := some (.file m)
        files := files
        log := r.log ++ openLog config.store.recordPath (.ok m) ++ [installEntry config] }
  | failed {e : StoreError} {files : FileTree} : config.store.backend = .file →
    openOrCreate config.store.recordPath r.files = (.error e, files) →
      Installs config r (.error e) { r with sink := config.report.sink, files := files }

theorem installs (config : FaultConfig) (r : Reporter) :
    Installs config r (r.install config).1 (r.install config).2 := by
  unfold install openStore
  dsimp only
  cases hbackend : config.store.backend with
  | retained => exact .retained hbackend
  | file =>
    dsimp only
    cases hopen : openOrCreate config.store.recordPath r.files with
    | mk result files =>
      cases result with
      | ok m => exact .opened hbackend hopen
      | error e =>
        have hlog : r.log ++ openLog config.store.recordPath (.error e) = r.log := List.append_nil _
        dsimp only
        rw [hlog]
        exact .failed hbackend hopen

/-! ## Stores and files -/

section
variable {α : Type} (r : Reporter)

theorem setStore_effect (choice : StoreChoice) : Effect r (r.setStore (α := α) choice).2 := by
  cases choice with
  | region id => exact .equips (.region id) r.sink r.log (by simp)
  | file path =>
    unfold setStore openStore
    dsimp only
    cases hopen : openOrCreate path r.files with
    | mk result files =>
      cases result with
      | ok m => exact .opens path r.sink _ hopen
      | error e => exact .refuses path r.sink _ hopen
  | failing error => exact .equips (.failing error) r.sink r.log (by simp)
  | reentrant id pc event => exact .equips (.reentrant id pc event) r.sink r.log (by simp)

theorem Installs.effect {config : FaultConfig} {result : Except StoreError Unit} {after : Reporter}
    (h : Installs config r result after) : Effect r after := by
  cases h with
  | retained => exact .equips (.region .processWide) config.report.sink _ (by simp)
  | opened _ hopen => exact .opens config.store.recordPath config.report.sink _ hopen
  | failed _ hopen => exact .refuses config.store.recordPath config.report.sink r.log hopen

theorem install_effect (config : FaultConfig) : Effect r (r.install config).2 := (installs config r).effect

theorem installText_effect (document : String) : Effect r (r.installText (α := α) document).2 := by
  unfold installText
  split
  · exact Effect.nothing r
  · exact install_effect r _

theorem callRegion_effect (id : RegionId) (call : StoreCall) : Effect r (r.callRegion (α := α) id call).2 := by
  cases call with
  | load => exact Effect.nothing r
  | save record => exact .writesRegion id _
  | clear => exact .writesRegion id _

theorem callFile_effect (path : String) (call : StoreCall) : Effect r (r.callFile (α := α) path call).2 := by
  have htree := openExisting_snd path r.files
  unfold callFile
  cases hopen : openExisting path r.files with
  | mk result files =>
    rw [hopen] at htree
    dsimp only at htree ⊢
    subst htree
    cases result with
    | error e => exact .shows _ r.printed r.delivered
    | ok m =>
      cases call with
      | load => exact .shows _ r.printed r.delivered
      | save record => exact .saves path m record _ hopen
      | clear => exact .clears path m _ hopen

end

/-! ## All steps -/

theorem step_effect {α : Type} (build : Build) (s : Step α) (r : Reporter) : Effect r (r.step build s).2 := by
  cases s with
  | checkResult code site => exact unless_effect _ r () (escalateCode_effect _ build site r code)
  | checkBool condition site => exact unless_effect _ r () (escalateCode_effect _ build site r .neutral)
  | checkAssert condition site => exact unless_effect _ r () (escalateAssert_effect _ build site r)
  | orFault result site => exact orFault_effect some build site r result
  | handleCheckedResult code site => exact escalate_effect _ _ _ _ r
  | handleCheckedResultMinimal code => exact escalate_effect _ _ _ _ r
  | handleAssert site => exact escalate_effect _ _ _ _ r
  | handleAssertMinimal => exact escalate_effect _ _ _ _ r
  | escalate pc event => exact escalate_effect _ _ pc event r
  | standardHandler pc event => exact standardHandler_effect _ pc event r.delivered r rfl
  | handleFault pc event => exact .halts r.log r.printed r.delivered build.payloadAddress pc event rfl
  | setHandler handler => exact .selects handler r.sink
  | setSink sink => exact .selects r.handler sink
  | sink => exact Effect.nothing r
  | faulted => exact Effect.nothing r
  | setStore choice => exact setStore_effect r choice
  | install document => exact installText_effect r document
  | log pc event =>
    obtain ⟨log, hlogged⟩ := logFault_eq pc event r
    rw [step, hlogged]
    exact .shows log r.printed r.delivered
  | print pc event => exact .shows r.log _ r.delivered
  | region id call => exact callRegion_effect r id call
  | file path call => exact callFile_effect r path call
  | remove path =>
    unfold step
    dsimp only
    split
    · rename_i files hremove
      exact .removes path files hremove
    · exact Effect.nothing r
  | contents path => exact Effect.nothing r
  | unpark => exact Effect.nothing r

/-! ## What effects do to files and stores -/

namespace Effect

variable {r r' : Reporter}

theorem work (h : Effect r r') : RecordWork r.files r'.files := by
  cases h with
  | shows => exact .nothing _
  | halts log printed delivered address pc event hafter =>
    obtain ⟨regions, files, log', hwork, hhandled⟩ :=
      handleFault_eq address pc event { r with log := log, printed := printed, delivered := delivered }
    rw [hafter, hhandled]
    exact hwork
  | selects => exact .nothing _
  | equips => exact .nothing _
  | opens path sink log hopen =>
    have hwork := RecordWork.opens path r.files
    rwa [hopen] at hwork
  | refuses path sink log hopen =>
    have hwork := RecordWork.opens path r.files
    rwa [hopen] at hwork
  | writesRegion => exact .nothing _
  | saves path m record => exact .saves m record _
  | clears path m => exact .clears m _
  | removes path files hremove => exact .names (.of_removeFile hremove)

/-- A record file becomes the store by being opened, and in no other way. -/
theorem store_eq_file (h : Effect r r') {m : MappedRecord} (hstore : r'.store = some (.file m)) :
    r.store = some (.file m) ∨ ∃ path, openOrCreate path r.files = (.ok m, r'.files) := by
  cases h with
  | shows => exact .inl hstore
  | halts log printed delivered address pc event hafter =>
    obtain ⟨regions, files, log', -, hhandled⟩ :=
      handleFault_eq address pc event { r with log := log, printed := printed, delivered := delivered }
    rw [hafter, hhandled] at hstore
    exact .inl hstore
  | selects => exact .inl hstore
  | equips store sink log hother => exact absurd (Option.some.inj hstore) (hother m)
  | opens path sink log hopen =>
    cases hstore
    exact .inr ⟨path, hopen⟩
  | refuses => exact .inl hstore
  | writesRegion => exact .inl hstore
  | saves => exact .inl hstore
  | clears => exact .inl hstore
  | removes => exact .inl hstore

end Effect
end PostMortem.Reporter
