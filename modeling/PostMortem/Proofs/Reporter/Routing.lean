import PostMortem.Proofs.Reporter.Reachable
import PostMortem.Proofs.Store.Resets

/-! # Where the record of a fault is kept

The record of a fault is kept in exactly one depot. Which one depends on the store: it is the store's own if the
store is free and its save succeeds, and the process-wide region in all other cases. A save may itself raise a fault;
that one finds the store in use, so its record goes to the process-wide region and nothing else comes of it.

* `Depot`, `Depot.load`: what can hold a record.
* `Reporter.route`: the way that the record of a fault takes.
* `Reporter.atSave`: what the save of the record finds.
* `Reporter.Kept`, `Reporter.NestedKept`: the record takes its route, and nothing else is changed.
-/
set_option autoImplicit false

namespace PostMortem

/-! ## Depots -/

/-- What can hold a record: a region, or a file. -/
inductive Depot
  | region (id : RegionId)
  | file (node : Nat)
deriving DecidableEq, Repr

namespace Depot

/-- What is in a depot: the words of a region or the bytes of a file. -/
def holds : Depot → Reporter → Region ⊕ Image
  | region id, r => .inl (r.regions id)
  | file node, r => .inr (r.files.content node)

/-- The record in a depot. -/
def load : Depot → Reporter → Option FaultRecord
  | region id, r => (r.regions id).read
  | file node, r => Image.decode? (r.files.content node)

end Depot

/-- Where a store keeps records, if it keeps any. -/
def Store.depot? : Store → Option Depot
  | region id => some (.region id)
  | file m => some (.file m.node)
  | failing _ => none
  | reentrant id _ _ => some (.region id)

/-! ## Routes -/

/-- The way that the record of a fault takes. -/
inductive Route
  /-- The store is free, and its save succeeds. -/
  | stored (store : Store)
  /-- No store is installed. -/
  | missing
  /-- The store is free, and its save fails. -/
  | failed (error : StoreError)
  /-- The store is in use. -/
  | busy

namespace Route

/-- Where a route ends. -/
def depot : Route → Depot
  | stored store => store.depot?.getD (.region .processWide)
  | missing => .region .processWide
  | failed _ => .region .processWide
  | busy => .region .processWide

/-- The warnings that a route leaves in the log. -/
def warnings : Route → List LogEntry
  | failed error => [Reporter.saveWarning error]
  | _ => []

end Route

namespace Reporter

/-- The route of a fault's record. -/
def route (address : UInt64) (record : FaultRecord) (r : Reporter) : Route :=
  if r.storeBusy then .busy
  else
    match r.store with
    | none => .missing
    | some store =>
      match ({ r with storeBusy := true }.saveIn address record store).1 with
      | .ok () => .stored store
      | .error error => .failed error

/-- What the save of a fault's record finds: a store whose save raises a fault of its own has that one handled before,
being in use. -/
def atSave (address : UInt64) (r : Reporter) : Reporter :=
  if r.storeBusy then r
  else
    match r.store with
    | some (.reentrant _ pc event) => { r with storeBusy := true }.handleFault address pc event
    | _ => r

/-- What becomes of the record of a fault that the reporter `r` was entered with. -/
structure Kept (address : UInt64) (record : FaultRecord) (r after : Reporter) : Prop where
  /-- The record is at the end of its route. -/
  loads : (r.route address record).depot.load after = some record
  /-- Nothing else is changed by this fault. -/
  elsewhere : ∀ depot : Depot, depot ≠ (r.route address record).depot →
    depot.holds after = depot.holds (r.atSave address)
  /-- No file is made, removed or renamed. -/
  names : after.files = { r.files with nodes := after.files.nodes }
  /-- There is a warning exactly if the save failed. -/
  warnings : ∃ entries, after.log = r.log ++ entries ∧
    (entries.filter fun entry => entry.severity = .warn) = (r.route address record).warnings

/-- What becomes of a fault that the save of a record raises. -/
structure NestedKept (address : UInt64) (record : FaultRecord) (r : Reporter) : Prop where
  /-- It changes no more than the process-wide region. -/
  elsewhere : ∀ depot : Depot, depot ≠ .region .processWide → depot.holds (r.atSave address) = depot.holds r
  /-- Its record goes there. -/
  loads : ∀ id pc event, r.storeBusy = false → r.store = some (.reentrant id pc event) →
    (Depot.region .processWide).load (r.atSave address) = some (.capture address pc event)
  /-- The record that is being saved ends where it would without that fault. -/
  route : ∀ id pc event, r.store = some (.reentrant id pc event) →
    (r.route address record).depot = ({ r with store := some (.region id) }.route address record).depot

/-! ## Saves and depots -/

theorem holds_tell (depot : Depot) (r : Reporter) (entry : LogEntry) :
    depot.holds (r.tell entry) = depot.holds r := by cases depot <;> rfl

theorem load_tell (depot : Depot) (r : Reporter) (entry : LogEntry) : depot.load (r.tell entry) = depot.load r := by
  cases depot <;> rfl

theorem holds_enterFault (depot : Depot) (r : Reporter) : depot.holds r.enterFault = depot.holds r := by
  cases depot <;> rfl

theorem load_saveRegion (r : Reporter) (id : RegionId) (record : FaultRecord) :
    (Depot.region id).load (r.saveRegion id record) = some record := by
  simp [Depot.load, saveRegion, setRegion, Region.read_save]

theorem holds_saveRegion {depot : Depot} {id : RegionId} (h : depot ≠ .region id) (r : Reporter)
    (record : FaultRecord) : depot.holds (r.saveRegion id record) = depot.holds r := by
  cases depot with
  | region other =>
    have hne : other ≠ id := fun heq => h (congrArg Depot.region heq)
    simp [Depot.holds, saveRegion, setRegion, hne]
  | file node => rfl

theorem holds_saveFile {depot : Depot} {m : MappedRecord} (h : depot ≠ .file m.node) (r : Reporter)
    (record : FaultRecord) : depot.holds { r with files := m.save record r.files } = depot.holds r := by
  cases depot with
  | region id => rfl
  | file node =>
    have hne : node ≠ m.node := fun heq => h (congrArg Depot.file heq)
    simp only [Depot.holds, MappedRecord.content_save, if_neg hne]

/-! ## The five ways of handling a fault -/

section
variable {r : Reporter} (address : UInt64) (pc : UInt32) (event : FaultEvent)

/-- A fault that finds the store in use is handled like any other one. -/
theorem handleWhileBusy_eq (h : r.storeBusy = true) :
    r.handleWhileBusy address pc event = r.handleFault address pc event := by
  have hbusy : r.enterFault.storeBusy = true := h
  rw [handleFault, persist, if_pos hbusy, handleWhileBusy]

theorem handleFault_of_missing (hbusy : r.storeBusy = false) (hstore : r.store = none) :
    r.handleFault address pc event = r.handleWhileBusy address pc event := by
  obtain ⟨⟩ := r
  cases hbusy
  cases hstore
  rfl

theorem handleFault_of_region {id : RegionId} (hbusy : r.storeBusy = false) (hstore : r.store = some (.region id)) :
    r.handleFault address pc event =
      (r.enterFault.saveRegion id (.capture address pc event)).tell (haltEntry (.capture address pc event)) := by
  obtain ⟨⟩ := r
  cases hbusy
  cases hstore
  rfl

theorem handleFault_of_file {m : MappedRecord} (hbusy : r.storeBusy = false) (hstore : r.store = some (.file m)) :
    r.handleFault address pc event =
      ({ r.enterFault with files := m.save (.capture address pc event) r.enterFault.files }).tell
        (haltEntry (.capture address pc event)) := by
  obtain ⟨⟩ := r
  cases hbusy
  cases hstore
  rfl

theorem handleFault_of_failing {e : StoreError} (hbusy : r.storeBusy = false) (hstore : r.store = some (.failing e)) :
    r.handleFault address pc event =
      ((r.enterFault.tell (saveWarning e)).saveRegion .processWide (.capture address pc event)).tell
        (haltEntry (.capture address pc event)) := by
  obtain ⟨⟩ := r
  cases hbusy
  cases hstore
  rfl

theorem handleFault_of_reentrant {id : RegionId} {nestedPc : UInt32} {nested : FaultEvent}
    (hbusy : r.storeBusy = false) (hstore : r.store = some (.reentrant id nestedPc nested)) :
    r.handleFault address pc event =
      ((r.handleWhileBusy address nestedPc nested).saveRegion id (.capture address pc event)).tell
        (haltEntry (.capture address pc event)) := by
  obtain ⟨⟩ := r
  cases hbusy
  cases hstore
  rfl

end

/-! ## Routes by the state of the store -/

section
variable {r : Reporter} {address : UInt64} {record : FaultRecord}

theorem route_of_busy (h : r.storeBusy = true) : r.route address record = .busy := by rw [route, if_pos h]

theorem route_of_missing (hbusy : r.storeBusy = false) (hstore : r.store = none) :
    r.route address record = .missing := by
  rw [route, if_neg (by simp [hbusy]), hstore]

theorem route_of_saved {store : Store} (hbusy : r.storeBusy = false) (hstore : r.store = some store)
    (hsave : ({ r with storeBusy := true }.saveIn address record store).1 = .ok ()) :
    r.route address record = .stored store := by
  rw [hstore] at hsave
  rw [route, if_neg (by simp [hbusy]), hstore]
  dsimp only
  rw [hsave]

theorem route_of_failed {store : Store} {e : StoreError} (hbusy : r.storeBusy = false) (hstore : r.store = some store)
    (hsave : ({ r with storeBusy := true }.saveIn address record store).1 = .error e) :
    r.route address record = .failed e := by
  rw [hstore] at hsave
  rw [route, if_neg (by simp [hbusy]), hstore]
  dsimp only
  rw [hsave]

theorem atSave_of_reentrant {id : RegionId} {pc : UInt32} {event : FaultEvent} (hbusy : r.storeBusy = false)
    (hstore : r.store = some (.reentrant id pc event)) :
    r.atSave address = { r with storeBusy := true }.handleWhileBusy address pc event := by
  rw [atSave, if_neg (by simp [hbusy]), hstore, handleWhileBusy_eq _ _ _ rfl]

theorem atSave_of_not_reentrant (h : ∀ id pc event, r.store ≠ some (.reentrant id pc event)) :
    r.atSave address = r := by
  unfold atSave
  split
  · rfl
  · split
    · rename_i id pc event hstore
      exact absurd hstore (h id pc event)
    · rfl

theorem holds_handleWhileBusy {depot : Depot} (h : depot ≠ .region .processWide) (pc : UInt32) (event : FaultEvent) :
    depot.holds (r.handleWhileBusy address pc event) = depot.holds r := by
  rw [handleWhileBusy, holds_tell, holds_saveRegion h, holds_enterFault]

theorem load_handleWhileBusy (pc : UInt32) (event : FaultEvent) :
    (Depot.region .processWide).load (r.handleWhileBusy address pc event) = some (.capture address pc event) := by
  rw [handleWhileBusy, load_tell, load_saveRegion]

/-! ## Nested faults -/

theorem nestedKept (address : UInt64) (record : FaultRecord) (r : Reporter) : NestedKept address record r where
  elsewhere depot h := by
    unfold atSave
    split
    · rfl
    · split
      · rw [← handleWhileBusy_eq _ _ _ rfl, holds_handleWhileBusy h]
        cases depot <;> rfl
      · rfl
  loads id pc event hbusy hstore := by rw [atSave_of_reentrant hbusy hstore, load_handleWhileBusy]
  route id pc event hstore := by
    by_cases hbusy : r.storeBusy = true
    · have hother : { r with store := some (.region id) }.storeBusy = true := hbusy
      rw [route_of_busy hbusy, route_of_busy hother]
    · have hfree : r.storeBusy = false := by simpa using hbusy
      have hother : { r with store := some (.region id) }.storeBusy = false := hfree
      rw [route_of_saved hfree hstore rfl, route_of_saved hother rfl rfl]
      rfl

/-! ## All routes -/

/-- A record that is saved in a region, after warnings or none and without any other change. -/
theorem kept_of_saveRegion {base : Reporter} {id : RegionId} {entries : List LogEntry} {way : Route}
    (hroute : r.route address record = way) (hdepot : way.depot = .region id)
    (hbase : ∀ depot : Depot, depot.holds base = depot.holds (r.atSave address)) (hfiles : base.files = r.files)
    (hlog : base.log = r.log ++ entries)
    (hwarnings : (entries.filter fun entry => entry.severity = .warn) = way.warnings) :
    Kept address record r ((base.saveRegion id record).tell (haltEntry record)) where
  loads := by rw [hroute, hdepot, load_tell, load_saveRegion]
  elsewhere depot h := by
    rw [hroute, hdepot] at h
    rw [holds_tell, holds_saveRegion h, hbase]
  names := by
    -- nothing is stored in a file
    have hsame : ((base.saveRegion id record).tell (haltEntry record)).files = r.files := hfiles
    rw [hsame]
  warnings := by
    refine ⟨entries ++ [haltEntry record], ?_, ?_⟩
    · rw [← List.append_assoc, ← hlog]
      rfl
    · rw [List.filter_append, hwarnings, hroute]
      simp [haltEntry]

theorem kept_of_saveFile {m : MappedRecord} (hbusy : r.storeBusy = false) (hstore : r.store = some (.file m))
    (hsize : (r.files.content m.node).length = Image.size) :
    Kept address record r
      (({ r.enterFault with files := m.save record r.enterFault.files }).tell (haltEntry record)) := by
  have hroute : r.route address record = .stored (.file m) := route_of_saved hbusy hstore rfl
  have hsave : r.atSave address = r := atSave_of_not_reentrant (by simp [hstore])
  refine ⟨?_, ?_, rfl, [haltEntry record], rfl, ?_⟩
  · rw [hroute, load_tell]
    exact MappedRecord.load_save hsize record
  · intro depot h
    rw [hroute] at h
    rw [hsave, holds_tell, holds_saveFile h, holds_enterFault]
  · rw [hroute]
    simp [haltEntry, Route.warnings]

end

/-! ## Halting -/

theorem parked_handleFault (address : UInt64) (pc : UInt32) (event : FaultEvent) (r : Reporter) :
    (r.handleFault address pc event).parked = r.parked := by
  obtain ⟨regions, files, log, -, hhandled⟩ := handleFault_eq address pc event r
  rw [hhandled]

/-- Whoever handles a fault leaves the store in use if it was, and lets go of it otherwise. -/
theorem storeBusy_handleFault (address : UInt64) (pc : UInt32) (event : FaultEvent) (r : Reporter) :
    (r.handleFault address pc event).storeBusy = r.storeBusy := by
  obtain ⟨regions, files, log, -, hhandled⟩ := handleFault_eq address pc event r
  rw [hhandled]

/-! ## Every fault -/

theorem kept_handleFault {r : Reporter} (hr : Sized r) (address : UInt64) (pc : UInt32) (event : FaultEvent) :
    Kept address (.capture address pc event) r (r.handleFault address pc event) := by
  by_cases hbusy : r.storeBusy = true
  · have hsave : r.atSave address = r := if_pos hbusy
    rw [← handleWhileBusy_eq _ _ _ hbusy]
    refine kept_of_saveRegion (route_of_busy hbusy) rfl (fun depot => ?_) rfl (List.append_nil _).symm rfl
    rw [hsave, holds_enterFault]
  · have hfree : r.storeBusy = false := by simpa using hbusy
    cases hstore : r.store with
    | none =>
      have hsave : r.atSave address = r := atSave_of_not_reentrant (by simp [hstore])
      rw [handleFault_of_missing _ _ _ hfree hstore]
      refine kept_of_saveRegion (route_of_missing hfree hstore) rfl (fun depot => ?_) rfl (List.append_nil _).symm rfl
      rw [hsave, holds_enterFault]
    | some store =>
      cases store with
      | region id =>
        have hsave : r.atSave address = r := atSave_of_not_reentrant (by simp [hstore])
        rw [handleFault_of_region _ _ _ hfree hstore]
        refine kept_of_saveRegion (route_of_saved hfree hstore rfl) rfl (fun depot => ?_) rfl
          (List.append_nil _).symm rfl
        rw [hsave, holds_enterFault]
      | file m =>
        rw [handleFault_of_file _ _ _ hfree hstore]
        exact kept_of_saveFile hfree hstore (hr m hstore)
      | failing e =>
        have hsave : r.atSave address = r := atSave_of_not_reentrant (by simp [hstore])
        rw [handleFault_of_failing _ _ _ hfree hstore]
        refine kept_of_saveRegion (route_of_failed hfree hstore rfl) rfl (fun depot => ?_) rfl rfl rfl
        rw [hsave, holds_tell, holds_enterFault]
      | reentrant id nestedPc nested =>
        rw [handleFault_of_reentrant _ _ _ hfree hstore]
        -- what the save finds differs from what the nested fault leaves in the lock alone
        refine kept_of_saveRegion (route_of_saved hfree hstore rfl) rfl (fun depot => ?_) rfl rfl rfl
        rw [atSave_of_reentrant hfree hstore]
        cases depot <;> rfl

/-- **The record of every fault is kept, in one location and without any other effect.** -/
theorem handleFault_keeps_record {r : Reporter} (hr : Reachable r) (build : Build) (pc : UInt32) (event : FaultEvent) :
    let address := build.payloadAddress
    let record := FaultRecord.capture address pc event
    let after := r.handleFault address pc event
    Kept address record r after ∧ NestedKept address record r ∧
      (after.store = r.store ∧ after.storeBusy = r.storeBusy) ∧
      ∀ α : Type, r.step (α := α) build (.handleFault pc event) =
        (.ended .halted, { after with parked := r.parked + 1 }) := by
  intro address record after
  have hstore : after.store = r.store := (keeps_handleFault address pc event r).store
  have hbusy : after.storeBusy = r.storeBusy := storeBusy_handleFault address pc event r
  refine ⟨kept_handleFault hr.sized address pc event, nestedKept address record r, ⟨hstore, hbusy⟩, fun α => ?_⟩
  have hparked : after.parked = r.parked := parked_handleFault address pc event r
  rw [← hparked]
  rfl

/-- The store keeps records in the process-wide region, and its save raises a fault whose record goes there too. -/
theorem handleFault_keeps_record_over_nested :
    let build : Build := ⟨true, 0x1000⟩
    let start : Reporter := { files := .fresh ["work"], regions := fun _ => .empty }
    let r := (start.step (α := Unit) build (.setStore (.reentrant .processWide 7 (.unknown ⟨9⟩ 1)))).2
    let after := r.handleFault 0x1000 5 (.error (.bare ⟨3⟩))
    Reachable r ∧ (Depot.region .processWide).load after = some ⟨.sdkError, 5, 0x1000, ⟨3⟩⟩ := by
  intro build start r after
  have hstart : Reachable start := .start _ _
  have hr : Reachable r := hstart.step build (.setStore (.reentrant .processWide 7 (.unknown ⟨9⟩ 1)))
  obtain ⟨hkept, -, -, -⟩ := handleFault_keeps_record hr build 5 (.error (.bare ⟨3⟩))
  exact ⟨hr, hkept.loads⟩

end Reporter
end PostMortem
