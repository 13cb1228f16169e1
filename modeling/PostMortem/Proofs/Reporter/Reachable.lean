import PostMortem.Proofs.Reporter.Effects

/-! # Reachable reporters

A reporter starts with nothing installed, beside any files and any regions, and takes steps. A thread that handles a
fault may have the store in use meanwhile, and the other threads then see every stage of its save. What matters in all
of these states is that a record file that is installed keeps its size: no save can run over its end.

* `Reporter.Reachable`: the states that a reporter can get into.
* `Reporter.Sized`: an installed record file has the size of a record file.
* `Reporter.Reachable.sized`: it has in every reachable state.
-/
set_option autoImplicit false

namespace PostMortem.Reporter
open FileTree MappedRecord

/-! ## States -/

/-- The states that a reporter can get into. The steps of other threads are not held up by a store in use here: a
program in which a change of the store has to wait for it gets into fewer states. -/
inductive Reachable : Reporter → Prop
  | start (files : FileTree) (regions : RegionId → Region) : Reachable { files, regions }
  | step {α : Type} {r : Reporter} (build : Build) (s : Step α) : Reachable r → Reachable (r.step build s).2
  /-- A thread that handles a fault takes the store. -/
  | lock {r : Reporter} {store : Store} :
    Reachable r → r.storeBusy = false → r.store = some store → Reachable { r.enterFault with storeBusy := true }
  /-- It stores one word of its record in a region. -/
  | storeWord {r : Reporter} {record : FaultRecord} {word : WordStore} (id : RegionId) :
    Reachable r → r.storeBusy = true → word ∈ Region.saveStores record →
      Reachable (r.setRegion id ((r.regions id).apply word))
  /-- It stores one byte of its record in the record file that is installed. -/
  | storeByte {r : Reporter} {record : FaultRecord} {byte : ByteStore} {m : MappedRecord} :
    Reachable r → r.storeBusy = true → r.store = some (.file m) → byte ∈ Image.saveStores record →
      Reachable { r with files := r.files.setContent m.node (Image.apply (r.files.content m.node) byte) }
  /-- It is done with the store. -/
  | unlock {r : Reporter} : Reachable r → r.storeBusy = true → Reachable { r with storeBusy := false }

/-- A record file that is installed has the size of a record file. -/
def Sized (r : Reporter) : Prop :=
  ∀ m, r.store = some (.file m) → (r.files.content m.node).length = Image.size

/-- The store is the same one, and the files of the right size still have it. -/
structure Keeps (r r' : Reporter) : Prop where
  store : r'.store = r.store
  sizes : KeepsSizes r.files r'.files

theorem keeps_handleFault (address : UInt64) (pc : UInt32) (event : FaultEvent) (r : Reporter) :
    Keeps r (r.handleFault address pc event) := by
  obtain ⟨regions, files, log, hwork, hhandled⟩ := handleFault_eq address pc event r
  rw [hhandled]
  exact ⟨rfl, hwork.keepsSizes⟩

/-! ## Steps -/

theorem Sized.effect {r r' : Reporter} (h : Sized r) (heffect : Effect r r') : Sized r' := by
  intro m hm
  rcases heffect.store_eq_file hm with hold | ⟨path, hopen⟩
  · exact heffect.work.keepsSizes m.node (h m hold)
  · exact (openOrCreate_eq_ok hopen).2.2

theorem Sized.step {α : Type} {r : Reporter} (h : Sized r) (build : Build) (s : Step α) :
    Sized (r.step build s).2 := h.effect (step_effect build s r)

/-- **A record file that is installed never loses its size.** -/
theorem Reachable.sized {r : Reporter} (h : Reachable r) : Sized r := by
  induction h with
  | start files regions => exact fun m hm => by cases hm
  | step build s _ ih => exact ih.step build s
  | lock _ _ _ ih => exact ih
  | storeWord id _ _ _ ih => exact ih
  | storeByte _ _ _ _ ih =>
    exact fun m hm => keepsSizes_setContent _ _ (Image.length_apply _ _) m.node (ih m hm)
  | unlock _ _ ih => exact ih

end PostMortem.Reporter
