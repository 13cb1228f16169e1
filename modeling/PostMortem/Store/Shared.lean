import PostMortem.Store.Region

/-! # Regions with several callers

A region may be used by several callers at a time. A save and a clear store one word after the other, a read loads one
word after the other, and between any two of these steps other calls may go on. The region is all that the calls share;
what a read has loaded so far is its own.

* `RegionCall`: a call on a region.
* `CallProgress.step`: the next load or store of a call.
* `SharedRegion.run`: calls that take their steps in the turns of a schedule.
-/
set_option autoImplicit false

namespace PostMortem

/-- A call on a region. -/
inductive RegionCall
  | write (record : FaultRecord)
  | read
  | clear
deriving DecidableEq, Repr

/-- How far a call has come: the stores that it has still to make, or the words that it has loaded. -/
inductive CallProgress
  | storing (left : List WordStore)
  | loadingMarker
  | loadingId
  | loadingPc (id : UInt32)
  | loadingInfo (id pc : UInt32)
  | loadingCode (id pc : UInt32) (info : UInt64)
  | returned (record : Option FaultRecord)
deriving DecidableEq, Repr

/-- A call before its first step. -/
def RegionCall.begin : RegionCall → CallProgress
  | write record => .storing (Region.saveStores record)
  | read => .loadingMarker
  | clear => .storing Region.clearStores

/-- One step of a call: a store, or a load that ends the read if the region is not marked. A call that is through does
nothing more. -/
def CallProgress.step (region : Region) : CallProgress → Region × CallProgress
  | storing [] => (region, storing [])
  | storing (store :: left) => (region.apply store, storing left)
  | loadingMarker => (region, if region.marker = Region.valid then loadingId else returned none)
  | loadingId => (region, loadingPc region.id)
  | loadingPc id => (region, loadingInfo id region.pc)
  | loadingInfo id pc => (region, loadingCode id pc region.info)
  | loadingCode id pc info => (region, returned (some ⟨⟨id⟩, pc, info, ⟨region.code⟩⟩))
  | returned record => (region, returned record)

/-- A region, and the calls that are under way on it. -/
structure SharedRegion where
  region : Region
  calls : List CallProgress
deriving DecidableEq, Repr

namespace SharedRegion

/-- A region with calls that have not begun. -/
def begin (region : Region) (calls : List RegionCall) : SharedRegion := ⟨region, calls.map RegionCall.begin⟩

/-- One step of the call with this number. -/
def turn (s : SharedRegion) (i : Nat) : SharedRegion :=
  match s.calls[i]? with
  | none => s
  | some progress =>
    let (region, next) := progress.step s.region
    ⟨region, s.calls.set i next⟩

/-- The calls take their steps in these turns. -/
def run (s : SharedRegion) (schedule : List Nat) : SharedRegion := schedule.foldl turn s

/-- What the call with this number has returned, if it is a read that is through. -/
def result? (s : SharedRegion) (i : Nat) : Option (Option FaultRecord) :=
  match s.calls[i]? with
  | some (.returned record) => some record
  | _ => none

end SharedRegion

end PostMortem
