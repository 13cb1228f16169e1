import PostMortem.Proofs.Store.Codec

/-! # Accesses that stay inside a mapping

Reading a word takes a slice of the mapped bytes, and writing one overwrites a slice. Here every slice is checked
against the bytes that are there, and an operation comes to nothing at the first one that is not inside. On a file of
the size of a record file no check fails, and the operations are the unchecked ones.
-/
set_option autoImplicit false

namespace PostMortem.Image

/-! ## Checked operations -/

def checkedSlice (image : Image) (offset width : Nat) : Option (List UInt8) :=
  if offset + width ≤ image.length then some (image.slice offset width) else none

def checkedWord (image : Image) (offset : Nat) : Option UInt32 :=
  (image.checkedSlice offset 4).map fun bytes => UInt32.ofNat (LittleEndian.decode bytes)

def checkedLong (image : Image) (offset : Nat) : Option UInt64 :=
  (image.checkedSlice offset 8).map fun bytes => UInt64.ofNat (LittleEndian.decode bytes)

def checkedWrite (image : Image) (offset : Nat) (bytes : List UInt8) : Option Image :=
  if offset + bytes.length ≤ image.length then some (image.applyAll (storesFrom offset bytes)) else none

def checkedLoad (image : Image) : Option (Option FaultRecord) := do
  if (← image.checkedWord magicOffset) = magic then
    let id ← image.checkedWord idOffset
    let pc ← image.checkedWord pcOffset
    let info ← image.checkedLong infoOffset
    let code ← image.checkedWord codeOffset
    return some ⟨⟨id⟩, pc, info, ⟨code⟩⟩
  else return none

def saveBlocks (record : FaultRecord) : List (Nat × List UInt8) :=
  [(magicOffset, LittleEndian.encode 4 0), (idOffset, LittleEndian.encode 4 record.id.raw.toNat),
    (pcOffset, LittleEndian.encode 4 record.pc.toNat), (codeOffset, LittleEndian.encode 4 record.code.raw.toNat),
    (infoOffset, LittleEndian.encode 8 record.info.toNat), (magicOffset, LittleEndian.encode 4 magic.toNat)]

def checkedWrites (image : Image) (blocks : List (Nat × List UInt8)) : Option Image :=
  blocks.foldlM (fun image block => image.checkedWrite block.1 block.2) image

def checkedSave (image : Image) (record : FaultRecord) : Option Image := image.checkedWrites (saveBlocks record)

def checkedClear (image : Image) : Option Image := image.checkedWrite 0 blank

/-- No operation on the image leaves the mapping. -/
structure InRange (image : Image) : Prop where
  load : image.checkedLoad = some image.decode?
  save : ∀ record, image.checkedSave record = some (image.save record)
  clear : image.checkedClear = some image.clear

/-! ## Images of the right size -/

section
variable {image : Image} {offset : Nat}

theorem checkedWord_eq (h : offset + 4 ≤ image.length) : image.checkedWord offset = some (image.word offset) := by
  rw [checkedWord, checkedSlice, if_pos h]
  rfl

theorem checkedLong_eq (h : offset + 8 ≤ image.length) : image.checkedLong offset = some (image.long offset) := by
  rw [checkedLong, checkedSlice, if_pos h]
  rfl

theorem checkedWrite_eq {bytes : List UInt8} (h : offset + bytes.length ≤ image.length) :
    image.checkedWrite offset bytes = some (image.applyAll (storesFrom offset bytes)) := if_pos h

theorem checkedLoad_eq (h : image.length = size) : image.checkedLoad = some image.decode? := by
  have hlength : image.length = 32 := h
  have hmagic : image.checkedWord magicOffset = some (image.word magicOffset) :=
    checkedWord_eq (by simp [hlength, magicOffset])
  have hid : image.checkedWord idOffset = some (image.word idOffset) := checkedWord_eq (by simp [hlength, idOffset])
  have hpc : image.checkedWord pcOffset = some (image.word pcOffset) := checkedWord_eq (by simp [hlength, pcOffset])
  have hcode : image.checkedWord codeOffset = some (image.word codeOffset) :=
    checkedWord_eq (by simp [hlength, codeOffset])
  have hinfo : image.checkedLong infoOffset = some (image.long infoOffset) :=
    checkedLong_eq (by simp [hlength, infoOffset])
  rw [checkedLoad, decode?, hmagic, hid, hpc, hcode, hinfo]
  by_cases hpresent : image.word magicOffset = magic
  · simp [hpresent]
  · simp [hpresent]

theorem checkedWrites_eq {blocks : List (Nat × List UInt8)}
    (h : ∀ block ∈ blocks, block.1 + block.2.length ≤ image.length) :
    image.checkedWrites blocks = some (image.applyAll (blocks.flatMap fun block => storesFrom block.1 block.2)) := by
  induction blocks generalizing image with
  | nil => rfl
  | cons block blocks ih =>
    have hfirst := checkedWrite_eq (h block List.mem_cons_self)
    -- a write leaves the length as it is
    have hrest : ∀ other ∈ blocks,
        other.1 + other.2.length ≤ (image.applyAll (storesFrom block.1 block.2)).length := by
      intro other hother
      rw [length_applyAll]
      exact h other (List.mem_cons_of_mem _ hother)
    rw [checkedWrites, List.foldlM_cons, hfirst, Option.bind_eq_bind, Option.bind_some, ← checkedWrites, ih hrest,
      List.flatMap_cons, applyAll_append]

theorem checkedSave_eq (h : image.length = size) (record : FaultRecord) :
    image.checkedSave record = some (image.save record) := by
  have hlength : image.length = 32 := h
  have hfit : ∀ block ∈ saveBlocks record, block.1 + block.2.length ≤ image.length := by
    intro block hblock
    simp only [saveBlocks, List.mem_cons, List.not_mem_nil, or_false] at hblock
    rcases hblock with rfl | rfl | rfl | rfl | rfl | rfl <;>
      simp [hlength, magicOffset, idOffset, pcOffset, codeOffset, infoOffset]
  rw [checkedSave, checkedWrites_eq hfit]
  rfl

theorem checkedClear_eq (h : image.length = size) : image.checkedClear = some image.clear := by
  have hblank : blank.length = size := List.length_replicate
  rw [checkedClear, checkedWrite_eq (by omega)]
  rfl

/-- **A file of the size of a record file has room for all accesses.** -/
theorem inRange_of_length (h : image.length = size) : image.InRange :=
  ⟨checkedLoad_eq h, checkedSave_eq h, checkedClear_eq h⟩

end

/-- A file with one byte less has not: a clear goes over all 32. -/
example : checkedClear (List.replicate 31 0) = none := by decide

end PostMortem.Image
