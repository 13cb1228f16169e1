import PostMortem.Proofs.Inspector.Erasure
import PostMortem.Proofs.Reporter.Effects
import PostMortem.Proofs.Store.Ranges
import PostMortem.Proofs.Store.Registers

/-! # Mappings are never resized

Sessions, a reporter and inspections work side by side on the same files. Each opens record files by paths that others
may rename or remove meanwhile, and relies on the size that it found when it opened. That is safe: whatever is done, and
in whatever order, no file that somebody maps is resized.

* `Host`: a reporter, and beside it the record files that are held open under names.
* `Host.Action`: what can be done, one thing after the other.
* `Host.SafeMappings`: no access leaves a mapping, and no resizing meets one.
* `Host.run_safeMappings`: both hold in every state that can be reached.
-/
set_option autoImplicit false

namespace PostMortem
open FileTree MappedRecord

/-! ## Work of sessions and inspections -/

namespace MappedSession

theorem change_work (s : MappedSession) {outcome : Except IoError FileTree}
    (hsame : ∀ files, outcome = .ok files → SameContents s.files files) :
    RecordWork s.files (s.change outcome).2.files := by
  cases outcome with
  | error e => exact .nothing _
  | ok files => exact .names (hsame files rfl)

theorem hold_files (s : MappedSession) (name path : String) (outcome : Except StoreError MappedRecord × FileTree) :
    (s.hold name path outcome).2.2.files = outcome.2 := by
  obtain ⟨result, files⟩ := outcome
  cases result <;> rfl

theorem withHandle_work (s : MappedSession) (name : String) {use : MappedRecord → Answer × FileTree}
    (huse : ∀ m, RecordWork s.files (use m).2) : RecordWork s.files (s.withHandle name use).2.2.files := by
  cases h : s.handle? name with
  | none =>
    rw [withHandle_none h]
    exact .nothing _
  | some m =>
    rw [withHandle_some h]
    exact huse m

theorem step_work (s : MappedSession) {step : Step} (hstep : step.writesAround = false) :
    RecordWork s.files (s.step step).2.2.files := by
  cases step with
  | openOrCreate name path =>
    rw [MappedSession.step, hold_files]
    exact .opens path _
  | openExisting name path =>
    rw [MappedSession.step, hold_files, openExisting_snd]
    exact .nothing _
  | save name record => exact withHandle_work s name fun m => .saves m record _
  | load name => exact withHandle_work s name fun _ => .nothing _
  | clear name => exact withHandle_work s name fun m => .clears m _
  | path name => exact withHandle_work s name fun _ => .nothing _
  | close name => exact .nothing _
  | contents path => exact .nothing _
  | replace path bytes => cases hstep
  | overwrite path offset bytes => cases hstep
  | makeDirectory path => exact change_work s fun files hfiles => SameContents.of_makeDirectory hfiles
  | remove path => exact change_work s fun files hfiles => SameContents.of_removeFile hfiles
  | rename path target => exact change_work s fun files hfiles => SameContents.of_rename hfiles

theorem step_sized {s : MappedSession} {step : Step} (hstep : step.writesAround = false)
    (hsized : ∀ name m, s.handle? name = some m → (s.files.content m.node).length = Image.size) :
    ∀ name m, (s.step step).2.2.handle? name = some m →
      ((s.step step).2.2.files.content m.node).length = Image.size := by
  -- a session mirrors the registers that are read off it, and mirroring speaks of sizes too
  let regs : Registers :=
    ⟨fun file => Image.decode? (s.files.content file), fun name => (s.handle? name).map fun m => m.node⟩
  have hmirrors : Mirrors regs s := ⟨fun _ => rfl, fun _ => rfl, hsized⟩
  exact (hmirrors.step hstep).sized

end MappedSession

theorem Inspector.inspect_work (path : String) (clear : Bool) (w : Writer) (t : FileTree) :
    RecordWork t (inspect path clear w t).files := by
  rcases inspect_files_cases path clear w t with hsame | ⟨m, -, -, -, -, -, hcleared⟩
  · rw [hsame]
    exact .nothing t
  · rw [hcleared]
    exact .clears m t

/-! ## Hosts -/

/-- A reporter and the files around it, and the record files that are held open under names. -/
structure Host where
  reporter : Reporter
  handles : List (String × MappedRecord) := []

namespace Host

def files (h : Host) : FileTree := h.reporter.files

def session (h : Host) : MappedSession := ⟨h.files, h.handles⟩

def start (files : FileTree) (regions : RegionId → Region) : Host := ⟨{ files, regions }, []⟩

/-- What can be done: a step of the sessions or of the reporter, an installation, an inspection. -/
inductive Action (α : Type)
  | session (step : MappedSession.Step)
  | reporter (build : Build) (step : Reporter.Step α)
  | install (config : FaultConfig)
  | inspect (path : String) (clear : Bool) (w : Writer)

variable {α : Type}

/-- Whether an action writes to a file without going through a record file that is held open. -/
def Action.writesAround : Action α → Bool
  | .session step => step.writesAround
  | _ => false

def act (h : Host) : Action α → Host
  | .session step =>
    let s := (h.session.step step).2.2
    ⟨{ h.reporter with files := s.files }, s.handles⟩
  | .reporter build step => { h with reporter := (h.reporter.step build step).2 }
  | .install config => { h with reporter := (h.reporter.install config).2 }
  | .inspect path clear w =>
    { h with reporter := { h.reporter with files := (Inspector.inspect path clear w h.files).files } }

def run (h : Host) (actions : List (Action α)) : Host := actions.foldl act h

/-- A record file that somebody maps: it is held open under a name, or it is the store of the reporter. -/
def Maps (h : Host) (m : MappedRecord) : Prop :=
  (∃ name, h.session.handle? name = some m) ∨ h.reporter.store = some (.file m)

/-! ## Mapped files keep their size -/

def Sized (h : Host) : Prop := ∀ m, h.Maps m → (h.files.content m.node).length = Image.size

theorem start_sized (files : FileTree) (regions : RegionId → Region) : (start files regions).Sized := by
  intro m hm
  rcases hm with ⟨name, hname⟩ | hstore
  · cases hname
  · cases hstore

theorem act_work (h : Host) {action : Action α} (haction : action.writesAround = false) :
    RecordWork h.files (h.act action).files := by
  cases action with
  | session step => exact h.session.step_work haction
  | reporter build step => exact (Reporter.step_effect build step h.reporter).work
  | install config => exact (Reporter.install_effect h.reporter config).work
  | inspect path clear w => exact Inspector.inspect_work path clear w h.files

theorem effect_sized {h : Host} (hsized : h.Sized) {after : Reporter} (heffect : Reporter.Effect h.reporter after) :
    Sized { h with reporter := after } := by
  intro m hm
  rcases hm with hname | hstore
  · exact heffect.work.keepsSizes m.node (hsized m (.inl hname))
  · rcases heffect.store_eq_file hstore with hold | ⟨path, hopen⟩
    · exact heffect.work.keepsSizes m.node (hsized m (.inr hold))
    · exact (openOrCreate_eq_ok hopen).2.2

theorem act_sized {h : Host} (hsized : h.Sized) {action : Action α} (haction : action.writesAround = false) :
    (h.act action).Sized := by
  have hkeeps := (h.act_work haction).keepsSizes
  cases action with
  | session step =>
    intro m hm
    rcases hm with ⟨name, hname⟩ | hstore
    · exact MappedSession.step_sized haction (fun name m hname => hsized m (.inl ⟨name, hname⟩)) name m hname
    · exact hkeeps m.node (hsized m (.inr hstore))
  | reporter build step => exact effect_sized hsized (Reporter.step_effect build step h.reporter)
  | install config => exact effect_sized hsized (Reporter.install_effect h.reporter config)
  | inspect path clear w => exact fun m hm => hkeeps m.node (hsized m hm)

theorem run_sized {h : Host} (hsized : h.Sized) {actions : List (Action α)}
    (hactions : ∀ action ∈ actions, action.writesAround = false) : (h.run actions).Sized := by
  induction actions generalizing h with
  | nil => exact hsized
  | cons first rest ih =>
    have hfirst := act_sized hsized (hactions first List.mem_cons_self)
    exact ih hfirst fun action haction => hactions action (List.mem_cons_of_mem _ haction)

theorem run_keepsSizes (h : Host) {actions : List (Action α)}
    (hactions : ∀ action ∈ actions, action.writesAround = false) : KeepsSizes h.files (h.run actions).files := by
  induction actions generalizing h with
  | nil => exact KeepsSizes.refl _
  | cons first rest ih =>
    have hfirst := (h.act_work (hactions first List.mem_cons_self)).keepsSizes
    exact hfirst.trans (ih _ fun action haction => hactions action (List.mem_cons_of_mem _ haction))

/-! ## What sizes are good for -/

/-- No access leaves a mapping, and a file that is resized is empty and not mapped. -/
structure SafeMappings (h : Host) : Prop where
  mapped : ∀ m, h.Maps m → (h.files.content m.node).length = Image.size ∧ Image.InRange (h.files.content m.node)
  /-- An inspection maps a file too, for its own time. -/
  opened : ∀ path m files, openExisting path h.files = (.ok m, files) →
    files = h.files ∧ (h.files.content m.node).length = Image.size ∧ Image.InRange (h.files.content m.node)
  resized : ∀ path node, (openOrCreate path h.files).2.content node = h.files.content node ∨
    h.files.content node = [] ∧ (openOrCreate path h.files).2.content node = Image.blank ∧
      ∀ m, h.Maps m → m.node ≠ node

theorem Sized.ne_of_empty {h : Host} (hsized : h.Sized) {node : Nat} (hempty : h.files.content node = []) :
    ∀ m, h.Maps m → m.node ≠ node := by
  intro m hm heq
  have hsize := hsized m hm
  rw [heq, hempty] at hsize
  cases hsize

theorem Sized.safeMappings {h : Host} (hsized : h.Sized) : h.SafeMappings where
  mapped m hm := ⟨hsized m hm, Image.inRange_of_length (hsized m hm)⟩
  opened path m files hopen := by
    obtain ⟨hfiles, -, -, hsize⟩ := openExisting_eq_ok_iff.mp hopen
    exact ⟨hfiles, hsize, Image.inRange_of_length hsize⟩
  resized path node := by
    rcases openOrCreate_fills path h.files node with hsame | ⟨hempty, hblank⟩
    · exact .inl hsame
    · exact .inr ⟨hempty, hblank, hsized.ne_of_empty hempty⟩

/-- **Whatever is done, mappings are safe, no file that is mapped is resized, and each that has been mapped once keeps
its size.** -/
theorem run_safeMappings (files : FileTree) (regions : RegionId → Region) (actions : List (Action α))
    (hactions : ∀ action ∈ actions, action.writesAround = false) :
    let h := (start files regions).run actions
    h.SafeMappings ∧
      (∀ (action : Action α) (node : Nat), action.writesAround = false →
        ((h.act action).files.content node).length = (h.files.content node).length ∨
          h.files.content node = [] ∧ (h.act action).files.content node = Image.blank ∧
            ∀ m, h.Maps m → m.node ≠ node) ∧
      ∀ (m : MappedRecord) (more : List (Action α)), h.Maps m →
        (∀ action ∈ more, action.writesAround = false) →
          ((h.run more).files.content m.node).length = Image.size := by
  intro h
  have hsized : h.Sized := run_sized (start_sized files regions) hactions
  refine ⟨hsized.safeMappings, ?_, ?_⟩
  · intro action node haction
    rcases (h.act_work haction).length_eq_or node with hlength | ⟨hempty, hblank⟩
    · exact .inl hlength
    · exact .inr ⟨hempty, hblank, hsized.ne_of_empty hempty⟩
  · intro m more hm hmore
    exact h.run_keepsSizes hmore m.node (hsized m hm)

/-- The store of a reporter loses its path to a new file, takes a fault, is shown and cleared, and is removed. -/
theorem run_safeMappings_of_moved_store :
    let build : Build := ⟨true, 0x1000⟩
    let record : FaultRecord := ⟨⟨9⟩, 4, 1, ⟨0⟩⟩
    let actions : List (Action Unit) :=
      [.session (.openOrCreate "a" "d/record.bin"), .install ⟨⟨.info, "x"⟩, ⟨.both⟩, ⟨.file, some "d/record.bin"⟩⟩,
        .session (.rename "d/record.bin" "old.bin"), .session (.openOrCreate "b" "d/record.bin"),
        .reporter build (.handleFault 4 (.unknown ⟨9⟩ 1)), .inspect "old.bin" true {}, .session (.close "a"),
        .session (.remove "old.bin")]
    let h := (start (fresh ["work"]) fun _ => .empty).run actions
    (∀ action ∈ actions, action.writesAround = false) ∧
      h.Maps ⟨"d/record.bin", 3⟩ ∧ h.files.fileAt? "d/record.bin" = some 4 ∧
        Image.checkedSave (h.files.content 3) record = some (Image.save (h.files.content 3) record) := by
  intro build record actions h
  have hactions : ∀ action ∈ actions, action.writesAround = false := by decide
  have hstore : h.reporter.store = some (.file ⟨"d/record.bin", 3⟩) := by decide +kernel
  have hother : h.files.fileAt? "d/record.bin" = some 4 := by decide +kernel
  have hmapped := (run_safeMappings (fresh ["work"]) (fun _ => .empty) actions hactions).1.mapped _ (.inr hstore)
  exact ⟨hactions, .inr hstore, hother, hmapped.2.save record⟩

end Host
end PostMortem
