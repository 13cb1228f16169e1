import PostMortem.Inspector.Run
import PostMortem.Proofs.Inspector.Erasure

/-! # What runs of the inspector show

A run that finds a configuration and, where it says, a record file, always succeeds: it shows what is in the record
file, and clears it if it is asked to. The configuration is not touched, so the next run finds everything again.

* `inspect_eq`: an inspection of a record file.
* `Finds`: the configuration and the record file of a run.
* `Finds.runOptions`: a run over these.
* `Ready`: a configuration and the record file that it names, which further runs find as they are.
-/
set_option autoImplicit false

namespace PostMortem.Inspector
open FileTree

/-! ## Inspections -/

/-- A record file that is there is shown, and cleared if that is asked for and there is a record. -/
theorem inspect_eq {t : FileTree} {path : String} {node : Nat} (hfile : t.fileAt? path = some node)
    (hsize : (t.content node).length = Image.size) (clear : Bool) :
    (inspect path clear {} t).result = .ok () ∧
      (inspect path clear {} t).writer.written =
        Text.Utf8.encode (Report.ofRecord? (Image.decode? (t.content node))).text ∧
      (inspect path clear {} t).files =
        if clear && (Image.decode? (t.content node)).isSome then t.setContent node (Image.clear (t.content node))
        else t := by
  have hwriter : ({} : Writer).Suffices (reportBytes (Image.decode? (t.content node))) :=
    ⟨Writer.accepts_of_room_none rfl _, rfl⟩
  have hholds : Holds path node (Image.decode? (t.content node)) t := ⟨hfile, hsize, rfl⟩
  obtain ⟨hresult, hwritten, hfiles⟩ := hholds.shown hwriter clear
  dsimp only at hwritten
  rw [List.nil_append, reportBytes] at hwritten
  rw [Image.clear_eq_blank hsize]
  exact ⟨hresult, hwritten, hfiles⟩

/-! ## Configurations -/

/-- What is loaded depends on the bytes of the file alone. -/
theorem load_of_read {t t' : FileTree} {path : String} (h : t'.read (.parse path) = t.read (.parse path)) :
    FaultConfig.load t' path = FaultConfig.load t path := by
  rw [FaultConfig.load, FaultConfig.load, readWith, readWith, h]

theorem fileAt?_of_load {t : FileTree} {path : String} {config : FaultConfig}
    (h : FaultConfig.load t path = .ok config) : ∃ node, t.fileAt? path = some node := by
  rw [FaultConfig.load, Outcome.bind_eq_ok_iff] at h
  obtain ⟨read, hread, -⟩ := h
  rw [readWith] at hread
  cases hbytes : t.read (.parse path) with
  | error e =>
    rw [hbytes] at hread
    cases hread
  | ok bytes =>
    obtain ⟨node, hfile, -⟩ := read_eq_ok_iff.mp hbytes
    exact ⟨node, hfile⟩

/-! ## Runs -/

/-- The configuration of a run: none if none is given, else what its file holds. -/
def Options.Configures (o : Options) (t : FileTree) (config : Option FaultConfig) : Prop :=
  o.config = none ∧ config = none ∨
    ∃ path loaded, o.config = some path ∧ FaultConfig.load t path = .ok loaded ∧ config = some loaded

theorem Options.loadConfig_eq_ok_iff {o : Options} {t : FileTree} {config : Option FaultConfig} :
    o.loadConfig t = .ok config ↔ o.Configures t config := by
  unfold loadConfig Configures
  cases o.config with
  | none => simp [eq_comm]
  | some path =>
    have hmap : some <$> FaultConfig.load t path = .ok config ↔
        ∃ loaded, FaultConfig.load t path = .ok loaded ∧ some loaded = config := Outcome.map_eq_ok_iff
    simp [hmap, eq_comm]

/-- The record file of a run: the one that is asked for, else the one that the configuration names, else the usual
one. -/
def Options.target (o : Options) (config : Option FaultConfig) : String :=
  (o.store.or (config.bind fun config => config.store.path)).getD "/var/lib/fault/record.bin"

theorem Options.recordPath_eq (o : Options) (config : Option FaultConfig) : o.recordPath config = o.target config := by
  unfold recordPath target
  cases o.store with
  | some path => rfl
  | none => cases config <;> rfl

/-- A run finds its configuration, and a record file where it looks for one. -/
structure Finds (o : Options) (t : FileTree) (config : Option FaultConfig) (node : Nat) : Prop where
  configured : o.Configures t config
  named : t.fileAt? (o.target config) = some node
  sized : (t.content node).length = Image.size

/-- **A run over a record file that is there shows it, and clears it only if it is asked to.** -/
theorem Finds.runOptions {o : Options} {t : FileTree} {config : Option FaultConfig} {node : Nat}
    (h : Finds o t config node) :
    (runOptions o t).exitCode = 0 ∧
      (runOptions o t).output = Text.Utf8.encode (Report.ofRecord? (Image.decode? (t.content node))).text ∧
      (runOptions o t).files =
        if o.clear && (Image.decode? (t.content node)).isSome then t.setContent node (Image.clear (t.content node))
        else t := by
  have hload : o.loadConfig t = .ok config := Options.loadConfig_eq_ok_iff.mpr h.configured
  obtain ⟨hresult, hwritten, hfiles⟩ := inspect_eq h.named h.sized o.clear
  rw [Inspector.runOptions, hload, runUnfiltered]
  dsimp only
  rw [Options.recordPath_eq, hresult]
  exact ⟨rfl, hwritten, hfiles⟩

theorem run_of_accepted {words : List String} {o : Options} (h : Request.parse words = .inspect o) (t : FileTree) :
    run words t = Inspector.runOptions o t := by rw [run, h]

/-! ## Runs one after the other -/

/-- A configuration at a path, and the record file that it names, which is another file. -/
structure Ready (configPath : String) (config : FaultConfig) (node : Nat) (t : FileTree) : Prop where
  loads : FaultConfig.load t configPath = .ok config
  named : t.fileAt? config.store.recordPath = some node
  apart : t.fileAt? configPath ≠ some node
  sized : (t.content node).length = Image.size

/-- The words of a run with this configuration and without another record file, which asks for a clear or not. -/
def Asks (configPath : String) (clear : Bool) (words : List String) : Prop :=
  ∃ o, Request.parse words = .inspect o ∧ o.config = some configPath ∧ o.store = none ∧ o.clear = clear

variable {configPath : String} {config : FaultConfig} {node : Nat} {t : FileTree}

theorem Ready.setContent (h : Ready configPath config node t) {bytes : List UInt8}
    (hbytes : bytes.length = Image.size) : Ready configPath config node (t.setContent node bytes) := by
  obtain ⟨place, hplace⟩ := fileAt?_of_load h.loads
  have hne : place ≠ node := fun heq => h.apart (heq ▸ hplace)
  refine ⟨?_, fileAt?_setContent h.named node bytes, ?_, ?_⟩
  · rw [load_of_read (read_setContent_of_ne hplace hne bytes), h.loads]
  · rw [fileAt?_setContent hplace node bytes]
    exact fun heq => hne (Option.some.inj heq)
  · rw [content_setContent_self, hbytes]

theorem Ready.finds (h : Ready configPath config node t) {o : Options} (hconfig : o.config = some configPath)
    (hstore : o.store = none) : Finds o t (some config) node where
  configured := .inr ⟨configPath, config, hconfig, h.loads, rfl⟩
  named := by
    have hpath : o.recordPath (some config) = config.store.recordPath := by
      unfold Options.recordPath
      rw [hstore]
    rw [← Options.recordPath_eq, hpath]
    exact h.named
  sized := h.sized

theorem Ready.run (h : Ready configPath config node t) {clear : Bool} {words : List String}
    (hwords : Asks configPath clear words) :
    (Inspector.run words t).exitCode = 0 ∧
      (Inspector.run words t).output =
        Text.Utf8.encode (Report.ofRecord? (Image.decode? (t.content node))).text ∧
      (Inspector.run words t).files =
        if clear && (Image.decode? (t.content node)).isSome then t.setContent node (Image.clear (t.content node))
        else t := by
  obtain ⟨o, hparse, hconfig, hstore, rfl⟩ := hwords
  rw [run_of_accepted hparse]
  exact (h.finds hconfig hstore).runOptions

/-- The files stay in order for the next run. -/
theorem Ready.files_run (h : Ready configPath config node t) {clear : Bool} {words : List String}
    (hwords : Asks configPath clear words) : Ready configPath config node (Inspector.run words t).files := by
  obtain ⟨-, -, hfiles⟩ := h.run hwords
  rw [hfiles]
  split
  · exact h.setContent ((Image.length_clear _).trans h.sized)
  · exact h

end PostMortem.Inspector
