import PostMortem.Proofs.Reporter.Handling
import PostMortem.Proofs.Reporter.Routing
import PostMortem.Proofs.Store.Exactness

/-! # Installing time and again

An installation sets the sink first, and may then fail to open its record file. So after some installations the sink is
that of the last configuration that was attempted, and the store is that of the last one that was installed: they may
come from different configurations, and the store goes on to protect the process in the meantime. What holds of one
attempt is read off from what an installation can do, and what holds of many is put together from these.

* `ConfigSource`, `Reporter.Attempt`, `Reporter.attempts`: configurations that are loaded and installed in turn.
* `Reporter.Settled`: sink, store and log after some attempts.
* `Reporter.Spares`: what a failed installation leaves alone.
* `Reporter.last_installed_protects`: any attempts, and the fault that comes next.
-/
set_option autoImplicit false

namespace PostMortem

/-- Where a configuration comes from. -/
inductive ConfigSource
  | text (document : String)
  | file (path : String)
deriving DecidableEq, Repr

def ConfigSource.config (files : FileTree) : ConfigSource → Except ConfigError FaultConfig
  | text document => FaultConfig.ofText document
  | file path => FaultConfig.load files path

/-- A configuration that is loaded from a file could have been given as a text. -/
theorem ConfigSource.exists_document {files : FileTree} {source : ConfigSource} {config : FaultConfig}
    (h : source.config files = .ok config) : ∃ document, FaultConfig.ofText document = .ok config := by
  cases source with
  | text document => exact ⟨document, h⟩
  | file path =>
    obtain ⟨parsed, hparsed, hvalid⟩ := Outcome.bind_eq_ok_iff.mp h
    unfold readWith at hparsed
    split at hparsed
    · cases hparsed
    · unfold parseBytesWith at hparsed
      split at hparsed
      · cases hparsed
      · rename_i text _
        have htext : parseWith FaultConfig.ofEntries (String.ofList text).toList = .ok parsed := by
          rw [String.toList_ofList]
          exact hparsed
        exact ⟨String.ofList text, Outcome.bind_eq_ok_iff.mpr ⟨parsed, htext, hvalid⟩⟩

namespace Reporter
open FileTree MappedRecord

/-! ## Attempts -/

/-- What an attempt to install a configuration comes to. -/
inductive Attempt
  /-- There is no configuration, or not a valid one. -/
  | refused (error : ConfigError)
  | installed (config : FaultConfig)
  | failed (config : FaultConfig) (error : StoreError)
deriving DecidableEq, Repr

namespace Attempt

def of (config : FaultConfig) : Except StoreError Unit → Attempt
  | .ok () => installed config
  | .error e => failed config e

/-- The configuration that was attempted, if there was one. -/
def config? : Attempt → Option FaultConfig
  | refused _ => none
  | installed config => some config
  | failed config _ => some config

def installed? : Attempt → Option FaultConfig
  | installed config => some config
  | _ => none

/-- The answer to a step that makes the attempt. -/
def answer {α : Type} : Attempt → Answer α
  | refused e => .refused e
  | installed _ => .stored (.ok none)
  | failed _ e => .stored (.error e)

end Attempt

def attempt (r : Reporter) (source : ConfigSource) : Attempt × Reporter :=
  match source.config r.files with
  | .error e => (.refused e, r)
  | .ok config =>
    let (result, r) := r.install config
    (.of config result, r)

/-- Attempt after attempt: what each comes to, and the reporter at the end. -/
def attempts (r : Reporter) : List ConfigSource → List Attempt × Reporter
  | [] => ([], r)
  | source :: rest =>
    let (first, r) := r.attempt source
    let (more, r) := r.attempts rest
    (first :: more, r)

/-! ## What is in use -/

/-- The record file of a configuration, or the process-wide region, is the store. -/
inductive InUse (config : FaultConfig) (r : Reporter) : Prop
  | retained : config.store.backend = .retained → r.store = some (.region .processWide) → InUse config r
  | file {m : MappedRecord} : config.store.backend = .file → r.store = some (.file m) →
    m.path = config.store.recordPath → r.files.fileAt? config.store.recordPath = some m.node → InUse config r

theorem InUse.of_extends {config : FaultConfig} {r after : Reporter} (h : InUse config r)
    (hstore : after.store = r.store) (hfiles : Extends r.files after.files) : InUse config after := by
  cases h with
  | retained hbackend hregion => exact .retained hbackend (hstore.trans hregion)
  | file hbackend hfile hpath hnamed => exact .file hbackend (hstore.trans hfile) hpath (hfiles.fileAt? hnamed)

theorem Installs.keepsFiles {config : FaultConfig} {r after : Reporter} {result : Except StoreError Unit}
    (h : Installs config r result after) : Extends r.files after.files ∧ Fills r.files after.files := by
  have hextends := openOrCreate_extends config.store.recordPath r.files
  have hfills := openOrCreate_fills config.store.recordPath r.files
  cases h with
  | retained => exact ⟨Extends.refl _, Fills.of_sameContents (SameContents.refl _)⟩
  | opened _ hopen =>
    rw [hopen] at hextends hfills
    exact ⟨hextends, hfills⟩
  | failed _ hopen =>
    rw [hopen] at hextends hfills
    exact ⟨hextends, hfills⟩

/-! ## Attempts one after the other -/

/-- The entries that say what has been done, an installation among them. -/
def infos (r : Reporter) : List LogEntry := r.log.filter fun entry => entry.severity = .info

/-- What attempts with these results leave. -/
structure Settled (r : Reporter) (results : List Attempt) (after : Reporter) : Prop where
  /-- The sink is that of the last configuration attempted. -/
  sink : after.sink = ((results.filterMap Attempt.config?).getLast?.map fun config => config.report.sink).getD r.sink
  /-- The store is that of the last configuration installed, or the one before all attempts. -/
  store : match (results.filterMap Attempt.installed?).getLast? with
    | some config => InUse config after
    | none => after.store = r.store
  messages : after.infos = r.infos ++ (results.filterMap Attempt.installed?).map installEntry
  files : Extends r.files after.files ∧ Fills r.files after.files
  others : after = { r with sink := after.sink, store := after.store, files := after.files, log := after.log }

theorem Settled.nothing (r : Reporter) : Settled r [] r :=
  ⟨rfl, rfl, (List.append_nil _).symm, ⟨Extends.refl _, Fills.of_sameContents (SameContents.refl _)⟩, rfl⟩

theorem Settled.trans {r mid after : Reporter} {results more : List Attempt} (h : Settled r results mid)
    (h' : Settled mid more after) : Settled r (results ++ more) after where
  sink := by
    rw [h'.sink, h.sink, List.filterMap_append, List.getLast?_append]
    cases (more.filterMap Attempt.config?).getLast? <;> rfl
  store := by
    have hfirst := h.store
    have hthen := h'.store
    rw [List.filterMap_append, List.getLast?_append]
    cases hlast : (more.filterMap Attempt.installed?).getLast? with
    | some config =>
      rw [hlast] at hthen
      exact hthen
    | none =>
      rw [hlast] at hthen
      rw [Option.none_or]
      split at hfirst
      · -- the store has come down from the first attempts, and no later one takes its name from its file
        exact hfirst.of_extends hthen h'.files.1
      · exact hthen.trans hfirst
  messages := by rw [h'.messages, h.messages, List.filterMap_append, List.map_append, List.append_assoc]
  files := ⟨h.files.1.trans h'.files.1, h.files.2.trans h'.files.2⟩
  others := by
    have hfirst := h.others
    have hthen := h'.others
    rw [hthen, hfirst]

/-! ## One attempt -/

section
variable {r : Reporter} {source : ConfigSource} {config : FaultConfig}

theorem attempt_of_error {e : ConfigError} (h : source.config r.files = .error e) :
    r.attempt source = (.refused e, r) := by rw [attempt, h]

theorem attempt_of_ok (h : source.config r.files = .ok config) :
    r.attempt source = (.of config (r.install config).1, (r.install config).2) := by rw [attempt, h]

/-- A step that installs from a text makes an attempt. -/
theorem step_install {α : Type} (build : Build) (r : Reporter) (document : String) :
    r.step (α := α) build (.install document) =
      ((r.attempt (.text document)).1.answer, (r.attempt (.text document)).2) := by
  show r.installText document = _
  rw [installText]
  cases hconfig : FaultConfig.ofText document with
  | error e =>
    have hsource : ConfigSource.config r.files (.text document) = .error e := hconfig
    rw [attempt_of_error hsource]
    rfl
  | ok config =>
    have hsource : ConfigSource.config r.files (.text document) = .ok config := hconfig
    rw [attempt_of_ok hsource]
    dsimp only
    cases (r.install config).1 <;> rfl

theorem Reachable.attempt (hr : Reachable r) (source : ConfigSource) : Reachable (r.attempt source).2 := by
  cases hconfig : source.config r.files with
  | error e =>
    rw [attempt_of_error hconfig]
    exact hr
  | ok config =>
    obtain ⟨document, hdocument⟩ := ConfigSource.exists_document hconfig
    have htext : ConfigSource.config r.files (.text document) = .ok config := hdocument
    have hstep := hr.step (α := Unit) ⟨true, 0⟩ (.install document)
    rw [step_install, attempt_of_ok htext] at hstep
    rw [attempt_of_ok hconfig]
    exact hstep

theorem Settled.of_installs {result : Except StoreError Unit} {after : Reporter}
    (h : Installs config r result after) : Settled r [.of config result] after := by
  have hfiles := h.keepsFiles
  cases h with
  | retained hbackend =>
    refine ⟨rfl, .retained hbackend rfl, ?_, hfiles, rfl⟩
    simp [infos, Attempt.of, Attempt.installed?, installEntry]
  | opened hbackend hopen =>
    obtain ⟨hpath, hnamed, -⟩ := openOrCreate_eq_ok hopen
    refine ⟨rfl, .file hbackend rfl hpath hnamed, ?_, hfiles, rfl⟩
    simp [infos, Attempt.of, Attempt.installed?, installEntry, openLog]
  | failed => exact ⟨rfl, rfl, (List.append_nil _).symm, hfiles, rfl⟩

theorem settled_attempt (r : Reporter) (source : ConfigSource) :
    Settled r [(r.attempt source).1] (r.attempt source).2 := by
  cases hconfig : source.config r.files with
  | error e =>
    rw [attempt_of_error hconfig]
    obtain ⟨hsink, hstore, hmessages, hfiles, hothers⟩ := Settled.nothing r
    exact ⟨hsink, hstore, hmessages, hfiles, hothers⟩
  | ok config =>
    rw [attempt_of_ok hconfig]
    exact Settled.of_installs (installs config r)

end

/-! ## All attempts -/

theorem attempts_cons (r : Reporter) (source : ConfigSource) (rest : List ConfigSource) :
    r.attempts (source :: rest) =
      ((r.attempt source).1 :: ((r.attempt source).2.attempts rest).1, ((r.attempt source).2.attempts rest).2) := rfl

theorem settled_attempts (r : Reporter) (sources : List ConfigSource) :
    Settled r (r.attempts sources).1 (r.attempts sources).2 := by
  -- each attempt is judged from the reporter that the ones before it have left
  induction sources generalizing r with
  | nil => exact Settled.nothing r
  | cons source rest ih =>
    rw [attempts_cons]
    exact (settled_attempt r source).trans (ih (r.attempt source).2)

theorem Reachable.attempts {r : Reporter} (hr : Reachable r) (sources : List ConfigSource) :
    Reachable (r.attempts sources).2 := by
  induction sources generalizing r with
  | nil => exact hr
  | cons source rest ih =>
    rw [attempts_cons]
    exact ih (hr.attempt source)

/-! ## The next fault -/

section
variable {r : Reporter} (address : UInt64) (pc : UInt32) (event : FaultEvent)

theorem depot_route (address : UInt64) (record : FaultRecord) (r : Reporter) :
    (r.route address record).depot =
      if r.storeBusy then .region .processWide else (r.store.bind Store.depot?).getD (.region .processWide) := by
  by_cases hbusy : r.storeBusy = true
  · rw [route_of_busy hbusy, if_pos hbusy]
    rfl
  · have hfree : r.storeBusy = false := by simpa using hbusy
    rw [if_neg hbusy]
    cases hstore : r.store with
    | none =>
      rw [route_of_missing hfree hstore]
      rfl
    | some store =>
      cases store with
      | failing e =>
        rw [route_of_failed hfree hstore rfl]
        rfl
      | region | file | reentrant =>
        rw [route_of_saved hfree hstore rfl]
        rfl

/-- A record is where a configuration says that records are. -/
def Found (config : FaultConfig) (record : FaultRecord) (r : Reporter) : Prop :=
  match config.store.backend with
  | .retained => (r.regions .processWide).read = some record
  | .file => ∃ m, openExisting config.store.recordPath r.files = (.ok m, r.files) ∧ m.load r.files = some record

theorem InUse.found {config : FaultConfig} (h : InUse config r) (hr : Sized r) (hfree : r.storeBusy = false) :
    Found config (.capture address pc event) (r.handleFault address pc event) := by
  unfold Found
  cases h with
  | retained hbackend hregion =>
    rw [hbackend, handleFault_of_region address pc event hfree hregion]
    exact (load_tell (.region .processWide) _ _).trans (load_saveRegion _ _ _)
  | @file m hbackend hfile hpath hnamed =>
    have hsize := hr m hfile
    rw [hbackend, handleFault_of_file address pc event hfree hfile]
    refine ⟨m, ?_, load_save hsize _⟩
    have hnamed' := fileAt?_setContent hnamed m.node (Image.save (r.files.content m.node) (.capture address pc event))
    exact openExisting_eq_ok_iff.mpr ⟨rfl, hpath, hnamed', keepsSizes_save m _ _ m.node hsize⟩

theorem regions_handleFault_withFiles (r : Reporter) (files : FileTree) :
    (handleFault address pc event { r with files := files }).regions = (r.handleFault address pc event).regions := by
  obtain ⟨handler, sink, store, busy, faulted, regions, _, parked, log, printed, delivered⟩ := r
  cases busy with
  | true => rfl
  | false =>
    cases store with
    | none => rfl
    | some store => cases store <;> rfl

theorem content_handleFault_withFiles {files : FileTree} (h : SameContents r.files files) (node : Nat) :
    (handleFault address pc event { r with files := files }).files.content node =
      (r.handleFault address pc event).files.content node := by
  obtain ⟨handler, sink, store, busy, faulted, regions, files', parked, log, printed, delivered⟩ := r
  cases busy with
  | true => exact h node
  | false =>
    cases store with
    | none => exact h node
    | some store =>
      cases store with
      | file m =>
        show (m.save _ files).content node = (m.save _ files').content node
        rw [content_save, content_save, h m.node, h node]
      | region | failing | reentrant => exact h node

/-- A fault leaves the same in all depots when the files have more names and the sink is another one. -/
theorem holds_handleFault_with {files : FileTree} (h : SameContents r.files files) (sink : SinkKind) (depot : Depot) :
    depot.holds (handleFault address pc event { r with sink := sink, files := files }) =
      depot.holds (r.handleFault address pc event) := by
  have hsink := handleFault_withSink address pc event { r with files := files } sink
  rw [hsink]
  cases depot with
  | region id =>
    have hregions := regions_handleFault_withFiles address pc event r files
    exact congrArg (fun regions => Sum.inl (regions id)) hregions
  | file node => exact congrArg Sum.inr (content_handleFault_withFiles address pc event h node)

end

/-! ## What attempts amount to -/

/-- A failed installation has changed the sink and made directories. The rest is spared, the next fault included. -/
structure Spares (config : FaultConfig) (r after : Reporter) : Prop where
  state : after = { r with sink := config.report.sink, files := after.files }
  files : GainsDirectories r.files after.files
  depot : ∀ address record, (after.route address record).depot = (r.route address record).depot
  next : ∀ address pc event (depot : Depot),
    depot.holds (after.handleFault address pc event) = depot.holds (r.handleFault address pc event)

theorem spares_of_failed {config : FaultConfig} {r after : Reporter} {e : StoreError}
    (h : r.install config = (.error e, after)) : Spares config r after := by
  have hinstalls := installs config r
  rw [h] at hinstalls
  cases hinstalls with
  | @failed e files hbackend hopen =>
    have hfiles : files = (r.files.makeParents (.parse config.store.recordPath)).2 := openOrCreate_error rfl hopen
    have hgains : GainsDirectories r.files files := hfiles ▸ gainsDirectories_makeParents r.files _
    refine ⟨rfl, hgains, fun address record => ?_, fun address pc event depot => ?_⟩
    · rw [depot_route, depot_route]
    · exact holds_handleFault_with address pc event (SameContents.of_nodes hgains.nodes) config.report.sink depot

/-- Where the fault that comes after some attempts is kept. -/
structure Protects (r : Reporter) (results : List Attempt) (after : Reporter) : Prop where
  kept : ∀ address pc event,
    Kept address (.capture address pc event) after (after.handleFault address pc event)
  found : r.storeBusy = false → ∀ config ∈ (results.filterMap Attempt.installed?).getLast?, ∀ address pc event,
    Found config (.capture address pc event) (after.handleFault address pc event)
  depot : (results.filterMap Attempt.installed?).getLast? = none → ∀ address record,
    (after.route address record).depot = (r.route address record).depot
  /-- A fault that comes while the store is in use by another one does not wait for it. -/
  busy : r.storeBusy = true → ∀ address record, (after.route address record).depot = .region .processWide

theorem Settled.protects {r after : Reporter} {results : List Attempt} (h : Settled r results after)
    (hafter : Sized after) : Protects r results after := by
  have hbusy : after.storeBusy = r.storeBusy := by rw [h.others]
  have hstore := h.store
  refine ⟨kept_handleFault hafter, ?_, ?_, ?_⟩
  · intro hfree config hlast address pc event
    rw [Option.mem_def.mp hlast] at hstore
    exact InUse.found address pc event hstore hafter (hbusy.trans hfree)
  · intro hnone address record
    rw [hnone] at hstore
    rw [depot_route, depot_route, hbusy, hstore]
  · intro hheld address record
    rw [depot_route, if_pos (hbusy.trans hheld)]

/-- **The sink follows the last configuration attempted, and the next fault the last one installed.** A failed
installation spares the store and all records, and a configuration that is refused changes nothing. -/
theorem last_installed_protects {r : Reporter} (hr : Reachable r) (build : Build) (sources : List ConfigSource) :
    let results := (r.attempts sources).1
    let after := (r.attempts sources).2
    Reachable after ∧ Settled r results after ∧ Protects r results after ∧
      (∀ α : Type, (after.step (α := α) build .sink).1 = .sink
        (((results.filterMap Attempt.config?).getLast?.map fun config => config.report.sink).getD r.sink)) ∧
      (∀ config e failed, r.install config = (.error e, failed) → Spares config r failed) ∧
      (∀ source e, source.config r.files = .error e → r.attempt source = (.refused e, r)) ∧
      ∀ (α : Type) document, r.step (α := α) build (.install document) =
        ((r.attempt (.text document)).1.answer, (r.attempt (.text document)).2) := by
  intro results after
  have hafter : Reachable after := hr.attempts sources
  have hsettled : Settled r results after := settled_attempts r sources
  refine ⟨hafter, hsettled, hsettled.protects hafter.sized, fun α => ?_, ?_, ?_, ?_⟩
  · exact congrArg Answer.sink hsettled.sink
  · exact fun config e failed => spares_of_failed
  · exact fun source e => attempt_of_error
  · exact fun α document => step_install build r document

/-- One configuration is installed, one has a record file that cannot be made, one is not valid and one is missing. -/
theorem last_installed_protects_over_failures :
    let r : Reporter := { files := .fresh ["work"] }
    let first := "shared.service_name='pump'\nreport.sink='text'\nstore.backend='file'\nstore.path='d/record.bin'"
    let second := "shared.service_name='pump'\nreport.sink='both'\nstore.backend='file'\nstore.path='d/record.bin/x'"
    let sources : List ConfigSource := [.text first, .text second, .text "shared.service_name=''", .file "fault.toml"]
    let pump (sink : SinkKind) (path : String) : FaultConfig := ⟨⟨.info, "pump"⟩, ⟨sink⟩, ⟨.file, some path⟩⟩
    Reachable r ∧
      (r.attempts sources).1 = [.installed (pump .text "d/record.bin"),
        .failed (pump .both "d/record.bin/x") (.io (.system .alreadyExists)), .refused .emptyServiceName,
        .refused .fileNotFound] ∧
      (r.attempts sources).2.sink = .both ∧
      Found (pump .text "d/record.bin") ⟨.sdkError, 5, 0x1000, ⟨3⟩⟩
        ((r.attempts sources).2.handleFault 0x1000 5 (.error (.bare ⟨3⟩))) := by
  intro r first second sources pump
  have hr : Reachable r := .start _ _
  have hresults : (r.attempts sources).1 = [.installed (pump .text "d/record.bin"),
      .failed (pump .both "d/record.bin/x") (.io (.system .alreadyExists)), .refused .emptyServiceName,
      .refused .fileNotFound] := by decide +kernel
  obtain ⟨-, hsettled, hprotects, -⟩ := last_installed_protects hr ⟨true, 0x1000⟩ sources
  have hlast : pump .text "d/record.bin" ∈ ((r.attempts sources).1.filterMap Attempt.installed?).getLast? := by
    rw [hresults]
    rfl
  refine ⟨hr, hresults, ?_, hprotects.found rfl _ hlast 0x1000 5 (.error (.bare ⟨3⟩))⟩
  rw [hsettled.sink, hresults]
  rfl

end Reporter
end PostMortem
