import PostMortem.Proofs.Store.Registers
import PostMortem.Proofs.Store.Resets
import PostMortem.Reporter.Step

/-! # Regions and record files behave alike

A retained region and a record file keep a record in quite different ways: a region in words, which stay behind when it
is cleared, a file in bytes, which are zeroed. What they answer does not show the difference. Both are slots that hold a
record or nothing, and what else is in the words and in the bytes has no effect on any answer.

* `Slot`: a record or nothing, and what it answers to calls.
* `Reporter.answers_region`, `MappedSession.answers_file`: each store answers as the slot with the record that it holds.
* `region_file_answer_alike`: so the two answer alike when neither holds a record at first.
-/
set_option autoImplicit false

namespace PostMortem
open FileTree
open Reporter (StoreCall)

/-! ## Slots -/

/-- A place for one record. -/
abbrev Slot := Option FaultRecord

namespace Slot

def call (slot : Slot) : StoreCall → Except StoreError (Option FaultRecord) × Slot
  | .load => (.ok slot, slot)
  | .save record => (.ok none, some record)
  | .clear => (.ok none, none)

def answers (slot : Slot) : List StoreCall → List (Except StoreError (Option FaultRecord))
  | [] => []
  | first :: rest => (slot.call first).1 :: answers (slot.call first).2 rest

end Slot

/-! ## Regions -/

theorem Region.read_clear (region : Region) : region.clear.read = none := by
  simp [clear, applyAll, clearStores, apply, read, valid]

namespace Reporter

variable {α : Type}

theorem setRegion_regions (r : Reporter) (id : RegionId) (region : Region) :
    (r.setRegion id region).regions id = region := if_pos rfl

theorem observe_region (build : Build) (id : RegionId) (call : StoreCall) (r : Reporter) :
    (r.observe (α := α) build (.region id call)).1.answer = .stored (Slot.call (r.regions id).read call).1 ∧
      ((r.observe (α := α) build (.region id call)).2.regions id).read = (Slot.call (r.regions id).read call).2 := by
  cases call with
  | load => exact ⟨rfl, rfl⟩
  | save record =>
    have hregion : (r.observe (α := α) build (.region id (.save record))).2.regions id = (r.regions id).save record :=
      setRegion_regions ..
    rw [hregion]
    exact ⟨rfl, Region.read_save ..⟩
  | clear =>
    have hregion : (r.observe (α := α) build (.region id .clear)).2.regions id = (r.regions id).clear :=
      setRegion_regions ..
    rw [hregion]
    exact ⟨rfl, Region.read_clear _⟩

theorem answers_region (build : Build) (id : RegionId) (calls : List StoreCall) (r : Reporter) :
    (r.run (α := α) build (calls.map (Step.region id))).1.map (fun shown => shown.answer) =
      (Slot.answers (r.regions id).read calls).map Answer.stored := by
  -- of the words, only what is read from them goes on to the next call
  induction calls generalizing r with
  | nil => rfl
  | cons first rest ih =>
    obtain ⟨hanswer, hread⟩ := observe_region (α := α) build id first r
    have hrest := ih (r.observe (α := α) build (.region id first)).2
    rw [hread] at hrest
    exact congrArg₂ List.cons hanswer hrest

end Reporter

/-! ## Record files -/

namespace MappedSession

/-- A call to the record file that is held open under a name. -/
def Step.ofCall (name : String) : StoreCall → Step
  | .load => .load name
  | .save record => .save name record
  | .clear => .clear name

theorem step_ofCall {s : MappedSession} {name : String} {m : MappedRecord} (hm : s.handle? name = some m)
    (hsize : (s.files.content m.node).length = Image.size) (call : StoreCall) :
    let after := (s.step (.ofCall name call)).2.2
    (s.step (.ofCall name call)).1 = .stored (Slot.call (m.load s.files) call).1 ∧
      m.load after.files = (Slot.call (m.load s.files) call).2 ∧ after.handle? name = some m ∧
        (after.files.content m.node).length = Image.size := by
  cases call with
  | load =>
    rw [Step.ofCall, step, withHandle_some hm]
    exact ⟨rfl, rfl, hm, hsize⟩
  | save record =>
    rw [Step.ofCall, step, withHandle_some hm]
    exact ⟨rfl, MappedRecord.load_save hsize record, hm, MappedRecord.keepsSizes_save m record s.files m.node hsize⟩
  | clear =>
    rw [Step.ofCall, step, withHandle_some hm]
    exact ⟨rfl, MappedRecord.load_clear hsize, hm, MappedRecord.keepsSizes_clear m s.files m.node hsize⟩

theorem answers_file {s : MappedSession} {name : String} {m : MappedRecord} (hm : s.handle? name = some m)
    (hsize : (s.files.content m.node).length = Image.size) (calls : List StoreCall) :
    (s.run (calls.map (Step.ofCall name))).1.map (fun shown => shown.1) =
      (Slot.answers (m.load s.files) calls).map Answer.stored := by
  induction calls generalizing s with
  | nil => rfl
  | cons first rest ih =>
    obtain ⟨hanswer, hload, hhandle, hlength⟩ := step_ofCall hm hsize first
    have hrest := ih hhandle hlength
    rw [hload] at hrest
    exact congrArg₂ List.cons hanswer hrest

end MappedSession

/-! ## Both -/

/-- **A region without a valid marker and a record file without the magic word give the same answers, those of an empty
slot, whatever is saved, loaded and cleared.** -/
theorem region_file_answer_alike {α : Type} (build : Build) {r : Reporter} {id : RegionId} {s : MappedSession}
    {name : String} {m : MappedRecord} (hmarker : (r.regions id).marker ≠ Region.valid) (hm : s.handle? name = some m)
    (hsize : (s.files.content m.node).length = Image.size)
    (hmagic : Image.word (s.files.content m.node) Image.magicOffset ≠ Image.magic) (calls : List StoreCall) :
    let results := Slot.answers none calls
    (r.run (α := α) build (calls.map (Reporter.Step.region id))).1.map (fun shown => shown.answer) =
        results.map Reporter.Answer.stored ∧
      (s.run (calls.map (MappedSession.Step.ofCall name))).1.map (fun shown => shown.1) =
        results.map MappedSession.Answer.stored := by
  have hread : (r.regions id).read = none := if_neg hmarker
  have hload : m.load s.files = none := if_neg hmagic
  constructor
  · rw [Reporter.answers_region, hread]
  · rw [MappedSession.answers_file hm hsize, hload]

/-- A region and a file that are full of other things, and a record with all bits of the info word set. -/
theorem region_file_answer_alike_over_residue :
    let record : FaultRecord := ⟨.sdkError, 5, 0xFFFFFFFFFFFFFFFF, ⟨7⟩⟩
    let r : Reporter := { files := fresh ["work"], regions := fun _ => ⟨1, 2, 3, 4, 5⟩ }
    let s : MappedSession := ⟨(fresh ["work"]).setContent 2 (List.replicate 32 0x46), [("a", ⟨"record.bin", 2⟩)]⟩
    let calls : List StoreCall := [.load, .save record, .load, .clear, .load]
    let results : List (Except StoreError (Option FaultRecord)) :=
      [.ok none, .ok none, .ok (some record), .ok none, .ok none]
    (r.regions .processWide).marker ≠ Region.valid ∧ s.handle? "a" = some ⟨"record.bin", 2⟩ ∧
      (s.files.content 2).length = Image.size ∧ Image.word (s.files.content 2) Image.magicOffset ≠ Image.magic ∧
      (r.run (α := Unit) ⟨true, 0⟩ (calls.map (Reporter.Step.region .processWide))).1.map
          (fun shown => shown.answer) = results.map Reporter.Answer.stored ∧
        (s.run (calls.map (MappedSession.Step.ofCall "a"))).1.map (fun shown => shown.1) =
          results.map MappedSession.Answer.stored := by
  intro record r s calls results
  have hmarker : (r.regions .processWide).marker ≠ Region.valid := by decide
  have hm : s.handle? "a" = some ⟨"record.bin", 2⟩ := by decide
  have hsize : (s.files.content 2).length = Image.size := by decide +kernel
  have hmagic : Image.word (s.files.content 2) Image.magicOffset ≠ Image.magic := by decide +kernel
  have hresults : results = Slot.answers none calls := rfl
  rw [hresults]
  exact ⟨hmarker, hm, hsize, hmagic, region_file_answer_alike ⟨true, 0⟩ hmarker hm hsize hmagic calls⟩

end PostMortem
