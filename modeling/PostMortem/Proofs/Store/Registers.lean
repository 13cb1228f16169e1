import PostMortem.Proofs.Store.Opening
import PostMortem.Store.Session

/-! # Record files as registers

A record file that is held open behaves as a register that holds a record or nothing. The register belongs to the file:
all who hold the file see the same one, and no change of names, no opening and no closing has any effect on it.

* `Registers`: a register for every file, and the file that is held under each name.
* `Registers.next`: what a step does to them.
* `Mirrors`: a session whose files hold what the registers hold.
* `load_eq_register`: whatever steps a session takes, what is loaded is what the register holds.
-/
set_option autoImplicit false

namespace PostMortem.MappedSession
open FileTree

/-! ## Registers -/

/-- A register for every file, and the file that is held under each name. -/
structure Registers where
  slot : Nat → Option FaultRecord
  held : String → Option Nat

namespace Registers

/-- Nothing is held, and each register has the record that is in the bytes of its file. -/
def start (files : FileTree) : Registers where
  slot file := Image.decode? (files.content file)
  held _ := none

/-- Puts a record or nothing into the register of a file. -/
def put (regs : Registers) (file : Nat) (record : Option FaultRecord) : Registers :=
  { regs with slot := fun other => if other = file then record else regs.slot other }

/-- Puts a record or nothing into the register of the file that is held under a name. -/
def putHeld (regs : Registers) (name : String) (record : Option FaultRecord) : Registers :=
  match regs.held name with
  | some file => regs.put file record
  | none => regs

/-- Lets a name stand for a file or for nothing. -/
def hold (regs : Registers) (name : String) (file : Option Nat) : Registers :=
  { regs with held := fun other => if other = name then file else regs.held other }

theorem put_slot (regs : Registers) (file other : Nat) (record : Option FaultRecord) :
    (regs.put file record).slot other = if other = file then record else regs.slot other := rfl

theorem hold_held (regs : Registers) (name other : String) (file : Option Nat) :
    (regs.hold name file).held other = if other = name then file else regs.held other := rfl

/-- Takes up a file that has been opened. If it was made just now, its register is empty. -/
def take (regs : Registers) (before : FileTree) (name : String) : Option Nat → Registers
  | some file => (if file ∈ before.numbers then regs else regs.put file none).hold name (some file)
  | none => regs.hold name none

/-- What opening the file at a path under a name does to the registers. -/
def opened (regs : Registers) (before after : FileTree) (name path : String) : Answer → Registers
  | .stored (.ok _) => regs.take before name (after.fileAt? path)
  | _ => regs

/-- What a step does to the registers: openings, saves, clears and closings have an effect, and nothing else. -/
def next (regs : Registers) (before after : FileTree) (answer : Answer) : Step → Registers
  | .openOrCreate name path => regs.opened before after name path answer
  | .openExisting name path => regs.opened before after name path answer
  | .save name record => regs.putHeld name (some record)
  | .clear name => regs.putHeld name none
  | .close name => regs.hold name none
  | _ => regs

/-- The registers after steps of a session. -/
def after (regs : Registers) (s : MappedSession) : List Step → Registers
  | [] => regs
  | first :: rest =>
    let (answer, _, s') := s.step first
    (regs.next s.files s'.files answer first).after s' rest

end Registers

/-- Whether a step writes to a file without going through a record file that is held open. -/
def Step.writesAround : Step → Bool
  | .replace .. => true
  | .overwrite .. => true
  | _ => false

/-! ## Handles -/

theorem handle?_release (s : MappedSession) (name other : String) :
    (s.release name).handle? other = if other = name then none else s.handle? other := by
  by_cases h : other = name
  · rw [if_pos h, h, handle?, release, lookup_filter_self]
  · rw [if_neg h, handle?, release, lookup_filter_ne _ h, ← handle?]

theorem handle?_cons (s : MappedSession) (files : FileTree) (name other : String) (m : MappedRecord) :
    handle? ⟨files, (name, m) :: (s.release name).handles⟩ other =
      if other = name then some m else s.handle? other := by
  by_cases h : other = name
  · simp [handle?, h]
  · have hkey : (other == name) = false := by simpa using h
    have hrest := handle?_release s name other
    rw [if_neg h] at hrest
    rw [if_neg h, ← hrest, handle?, List.lookup_cons, hkey, ← handle?]

theorem withHandle_none {s : MappedSession} {name : String} (h : s.handle? name = none)
    (use : MappedRecord → Answer × FileTree) : s.withHandle name use = (.notOpen, [], s) := by rw [withHandle, h]

theorem withHandle_some {s : MappedSession} {name : String} {m : MappedRecord} (h : s.handle? name = some m)
    (use : MappedRecord → Answer × FileTree) :
    s.withHandle name use = ((use m).1, [], { s with files := (use m).2 }) := by rw [withHandle, h]

/-- What only looks at a file leaves the session as it is. -/
theorem withHandle_look (s : MappedSession) (name : String) (look : MappedRecord → Answer) :
    (s.withHandle name fun m => (look m, s.files)).2.2 = s := by
  cases h : s.handle? name with
  | none => rw [withHandle_none h]
  | some m => rw [withHandle_some h]

/-! ## Sessions and registers -/

/-- The files of a session hold what the registers hold, and every file that is held open has the size of a record
file. -/
structure Mirrors (regs : Registers) (s : MappedSession) : Prop where
  slot : ∀ file, regs.slot file = Image.decode? (s.files.content file)
  held : ∀ name, regs.held name = (s.handle? name).map fun m => m.node
  sized : ∀ name m, s.handle? name = some m → (s.files.content m.node).length = Image.size

namespace Mirrors

variable {regs : Registers} {s : MappedSession}

theorem start (files : FileTree) : Mirrors (Registers.start files) ⟨files, []⟩ where
  slot _ := rfl
  held _ := rfl
  sized _ _ h := by cases h

/-- Filling empty files is not seen in any register. -/
theorem fills (h : Mirrors regs s) {files : FileTree} (hfills : MappedRecord.Fills s.files files) :
    Mirrors regs { s with files := files } where
  slot file := by rw [h.slot, hfills.decode?]
  held := h.held
  sized name m hm := by
    have hsize := h.sized name m hm
    rwa [← hfills.of_sized hsize] at hsize

theorem sameContents (h : Mirrors regs s) {files : FileTree} (hsame : SameContents s.files files) :
    Mirrors regs { s with files := files } := h.fills (.of_sameContents hsame)

theorem release (h : Mirrors regs s) (name : String) : Mirrors (regs.hold name none) (s.release name) where
  slot := h.slot
  held other := by
    rw [handle?_release, Registers.hold_held]
    split
    · rfl
    · exact h.held other
  sized other m hm := by
    rw [handle?_release] at hm
    split at hm
    · cases hm
    · exact h.sized other m hm

/-- A file that has been made just now has an empty register already. -/
theorem put_none (h : Mirrors regs s) {before : FileTree} (hfills : MappedRecord.Fills before s.files) {file : Nat}
    (hnew : file ∉ before.numbers) : Mirrors (regs.put file none) s where
  slot other := by
    rw [Registers.put_slot]
    split
    · rename_i hfile
      rw [hfile, hfills.decode?, content_of_not_mem_numbers hnew]
      decide
    · exact h.slot other
  held := h.held
  sized := h.sized

theorem take (h : Mirrors regs s) {files : FileTree} (hfills : MappedRecord.Fills s.files files) (name : String)
    {m : MappedRecord} (hsize : (files.content m.node).length = Image.size) :
    Mirrors (regs.take s.files name (some m.node)) ⟨files, (name, m) :: (s.release name).handles⟩ := by
  have hfilled := h.fills hfills
  have hslots : Mirrors (if m.node ∈ s.files.numbers then regs else regs.put m.node none) { s with files := files } := by
    split
    · exact hfilled
    · rename_i hnew
      exact hfilled.put_none hfills hnew
  refine ⟨hslots.slot, ?_, ?_⟩
  · intro other
    rw [handle?_cons, Registers.take, Registers.hold_held]
    split
    · rfl
    · exact hslots.held other
  · intro other n hn
    rw [handle?_cons] at hn
    split at hn
    · cases hn
      exact hsize
    · exact hfilled.sized other n hn

/-- Opening a file, by either way. -/
theorem opened (h : Mirrors regs s) (name path : String) (outcome : Except StoreError MappedRecord × FileTree)
    (hfills : MappedRecord.Fills s.files outcome.2)
    (hheld : ∀ m files, outcome = (.ok m, files) →
      files.fileAt? path = some m.node ∧ (files.content m.node).length = Image.size) :
    Mirrors
      (regs.opened s.files (s.hold name path outcome).2.2.files name path (s.hold name path outcome).1)
      (s.hold name path outcome).2.2 := by
  obtain ⟨result, files⟩ := outcome
  cases result with
  | error e => exact h.fills hfills
  | ok m =>
    obtain ⟨hfile, hsize⟩ := hheld m files rfl
    have htaken := h.take hfills name hsize
    rw [← hfile] at htaken
    exact htaken

/-- Writing through a file that is held changes its register and no other one. -/
theorem write (h : Mirrors regs s) (name : String) (record : Option FaultRecord)
    (bytes : List UInt8 → List UInt8) (answer : Answer) (hlength : ∀ old, (bytes old).length = old.length)
    (hbytes : ∀ old, old.length = Image.size → Image.decode? (bytes old) = record) :
    Mirrors (regs.putHeld name record)
      (s.withHandle name fun m => (answer, s.files.setContent m.node (bytes (s.files.content m.node)))).2.2 := by
  have hheld := h.held name
  cases hm : s.handle? name with
  | none =>
    rw [hm, Option.map_none] at hheld
    rw [withHandle_none hm, Registers.putHeld, hheld]
    exact h
  | some m =>
    have hsize := h.sized name m hm
    rw [hm, Option.map_some] at hheld
    rw [withHandle_some hm, Registers.putHeld, hheld]
    refine ⟨?_, h.held, ?_⟩
    · intro file
      rw [Registers.put_slot, content_setContent]
      split
      · exact (hbytes _ hsize).symm
      · exact h.slot file
    · intro other n hn
      rw [content_setContent]
      split
      · rw [hlength, hsize]
      · exact h.sized other n hn

/-- A change of names that may fail. -/
theorem change (h : Mirrors regs s) {outcome : Except IoError FileTree}
    (hsame : ∀ files, outcome = .ok files → SameContents s.files files) : Mirrors regs (s.change outcome).2 := by
  cases outcome with
  | error e => exact h
  | ok files => exact h.sameContents (hsame files rfl)

/-- One step. -/
theorem step (h : Mirrors regs s) {step : Step} (hstep : step.writesAround = false) :
    Mirrors (regs.next s.files (s.step step).2.2.files (s.step step).1 step) (s.step step).2.2 := by
  cases step with
  | openOrCreate name path =>
    rw [MappedSession.step]
    exact h.opened name path (MappedRecord.openOrCreate path s.files) (MappedRecord.openOrCreate_fills path s.files)
      fun m files hm => (MappedRecord.openOrCreate_eq_ok hm).2
  | openExisting name path =>
    rw [MappedSession.step]
    exact h.opened name path (MappedRecord.openExisting path s.files) (MappedRecord.map_fills false path s.files)
      fun m files hm => (MappedRecord.map_eq_ok hm).2
  | save name record =>
    exact h.write name (some record) (fun old => Image.save old record) _ (fun _ => Image.length_save _ _)
      fun _ hsize => Image.decode?_save hsize record
  | clear name =>
    exact h.write name none Image.clear _ Image.length_clear fun _ hsize => Image.decode?_clear hsize
  | load name =>
    rw [MappedSession.step, withHandle_look]
    exact h
  | path name =>
    rw [MappedSession.step, withHandle_look]
    exact h
  | close name => exact h.release name
  | contents path => exact h
  | replace path bytes => cases hstep
  | overwrite path offset bytes => cases hstep
  | makeDirectory path => exact h.change fun files hfiles => SameContents.of_makeDirectory hfiles
  | remove path => exact h.change fun files hfiles => SameContents.of_removeFile hfiles
  | rename path target => exact h.change fun files hfiles => SameContents.of_rename hfiles

/-- Step after step. -/
theorem run (h : Mirrors regs s) {steps : List Step} (hsteps : ∀ step ∈ steps, step.writesAround = false) :
    Mirrors (regs.after s steps) (s.run steps).2 := by
  induction steps generalizing regs s with
  | nil => exact h
  | cons first rest ih =>
    have hfirst := h.step (hsteps first List.mem_cons_self)
    exact ih hfirst fun step hstep => hsteps step (List.mem_cons_of_mem _ hstep)

theorem load (h : Mirrors regs s) (name : String) :
    (s.step (.load name)).1 =
      match regs.held name with
      | some file => .stored (.ok (regs.slot file))
      | none => .notOpen := by
  rw [MappedSession.step, h.held]
  cases hm : s.handle? name with
  | none => rw [withHandle_none hm]; rfl
  | some m =>
    rw [withHandle_some hm, Option.map_some]
    dsimp only
    rw [MappedRecord.load, h.slot]

end Mirrors

/-! ## What is loaded -/

/-- **Every load gives what the register of the file holds.** -/
theorem load_eq_register (files : FileTree) (steps : List Step)
    (hsteps : ∀ step ∈ steps, step.writesAround = false) (name : String) :
    let s : MappedSession := (run ⟨files, []⟩ steps).2
    let regs := (Registers.start files).after ⟨files, []⟩ steps
    (s.step (.load name)).1 =
      match regs.held name with
      | some file => .stored (.ok (regs.slot file))
      | none => .notOpen :=
  ((Mirrors.start files).run hsteps).load name

/-- A file is held under two names, loses its path to another file, is removed, and is written once more. -/
theorem load_eq_register_of_moved_file :
    let first : FaultRecord := ⟨⟨0x4001⟩, 1, 2, ⟨3⟩⟩
    let second : FaultRecord := ⟨⟨0x4002⟩, 4, 5, ⟨0⟩⟩
    let third : FaultRecord := ⟨⟨0x7⟩, 6, 8, ⟨0⟩⟩
    let steps : List Step :=
      [.openOrCreate "a" "d/record.bin", .openExisting "b" "d/../d/record.bin", .save "a" first,
        .rename "d/record.bin" "old.bin", .openOrCreate "c" "d/record.bin", .save "c" second, .remove "old.bin",
        .save "a" third, .close "a", .clear "c"]
    (∀ step ∈ steps, step.writesAround = false) ∧
      ((run ⟨fresh ["work"], []⟩ steps).2.step (.load "b")).1 = .stored (.ok (some third)) := by
  intro first second third steps
  have hsteps : ∀ step ∈ steps, step.writesAround = false := by decide
  have hheld : ((Registers.start (fresh ["work"])).after ⟨fresh ["work"], []⟩ steps).held "b" = some 3 := by
    decide +kernel
  have hslot : ((Registers.start (fresh ["work"])).after ⟨fresh ["work"], []⟩ steps).slot 3 = some third := by
    decide +kernel
  have hload := load_eq_register (fresh ["work"]) steps hsteps "b"
  dsimp only at hload
  rw [hheld] at hload
  dsimp only at hload
  rw [hslot] at hload
  exact ⟨hsteps, hload⟩

end PostMortem.MappedSession
