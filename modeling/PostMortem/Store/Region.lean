import PostMortem.Fault.Record

/-! # Retained regions

A retained region is a block of words that keeps its content across a warm reset. Its marker says whether it holds a
record. Saving and clearing are programs of single word stores, so that an operation cut off by a reset is a prefix of
its program: a save takes the marker away first and puts it back last, a clear takes the marker away and leaves the
other words as they are.

* `Region.saveStores`, `Region.clearStores`: the programs.
* `Region.read`: the record that a region holds.
* `RegionTable`: regions known under names, where several names may mean one region.
-/
set_option autoImplicit false

namespace PostMortem

/-- A block of words that can hold one record. -/
structure Region where
  marker : UInt32
  id : UInt32
  pc : UInt32
  info : UInt64
  code : UInt32
deriving DecidableEq, Repr

/-- The store of one word of a region. -/
inductive WordStore
  | marker (value : UInt32)
  | id (value : UInt32)
  | pc (value : UInt32)
  | info (value : UInt64)
  | code (value : UInt32)
deriving DecidableEq, Repr

namespace Region

/-- The marker of a region that holds a record. -/
def valid : UInt32 := 0xFA17FA17

def empty : Region := ⟨0, 0, 0, 0, 0⟩

instance : Inhabited Region := ⟨empty⟩

def saveStores (record : FaultRecord) : List WordStore :=
  [.marker 0, .id record.id.raw, .pc record.pc, .info record.info, .code record.code.raw, .marker valid]

def clearStores : List WordStore := [.marker 0]

def apply (region : Region) : WordStore → Region
  | .marker value => { region with marker := value }
  | .id value => { region with id := value }
  | .pc value => { region with pc := value }
  | .info value => { region with info := value }
  | .code value => { region with code := value }

def applyAll (region : Region) (stores : List WordStore) : Region := stores.foldl apply region

def save (region : Region) (record : FaultRecord) : Region := region.applyAll (saveStores record)

def clear (region : Region) : Region := region.applyAll clearStores

def read (region : Region) : Option FaultRecord :=
  if region.marker = valid then some ⟨⟨region.id⟩, region.pc, region.info, ⟨region.code⟩⟩ else none

end Region

/-! ## Regions under names -/

/-- Regions by number, and the names that stand for them. -/
structure RegionTable where
  regions : List Region := []
  names : List (String × Nat) := []

namespace RegionTable

/-- The number that a name stands for. A name not heard of before stands for a new empty region. -/
def resolve (t : RegionTable) (name : String) : Nat × RegionTable :=
  match t.names.lookup name with
  | some n => (n, t)
  | none =>
    (t.regions.length, { regions := t.regions ++ [.empty], names := (name, t.regions.length) :: t.names })

/-- What can be done to the region under a name. -/
inductive Operation
  | save (record : FaultRecord)
  | read
  | clear
  | alias (other : String)

/-- Does something to the region under a name. A read gives the record; the rest give nothing. -/
def perform (t : RegionTable) (name : String) (operation : Operation) : Option FaultRecord × RegionTable :=
  let (n, t) := t.resolve name
  let region := t.regions.getD n .empty
  match operation with
  | .save record => (none, { t with regions := t.regions.set n (region.save record) })
  | .read => (region.read, t)
  | .clear => (none, { t with regions := t.regions.set n region.clear })
  | .alias other => (none, { t with names := (other, n) :: t.names })

end RegionTable

end PostMortem
