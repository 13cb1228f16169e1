import PostMortem.Proofs.Inspector.Runs
import PostMortem.Proofs.Reporter.Routing

/-! # What the inspector shows after faults

A reporter that was installed from a configuration keeps every fault in the record file that the configuration names.
An inspector that is run with the same configuration finds the same file, and shows the last fault. After it has cleared
the file, it shows that there is none.

* `Undisturbed`: configuration, record file and store are as they were.
* `Faulting`: faults that are handled one after the other.
* `Faulting.ready`: what they leave in the record file.
* `run_after_faults`: what is shown after them.
-/
set_option autoImplicit false

namespace PostMortem.Inspector
open FileTree

/-! ## Faults one after the other -/

/-- A fault whose payload, if it has one, lives at an address. -/
structure RaisedFault where
  address : UInt64
  pc : UInt32
  event : FaultEvent

/-- The record of a fault. -/
def RaisedFault.record (fault : RaisedFault) : FaultRecord := .capture fault.address fault.pc fault.event

/-- A path names the same file as before, and the file has the same bytes. -/
structure SameFile (path : String) (t t' : FileTree) : Prop where
  file : t'.fileAt? path = t.fileAt? path
  bytes : t'.read (.parse path) = t.read (.parse path)

/-- No other store has been installed, and nothing has happened to the configuration and to the record file. -/
structure Undisturbed (configPath recordPath : String) (r r' : Reporter) : Prop where
  store : r'.store = r.store
  config : SameFile configPath r.files r'.files
  record : SameFile recordPath r.files r'.files

/-- Faults are handled one after the other: none while another one is being saved. Between them and after them, anything
may happen but to the store, the configuration and the record file. -/
inductive Faulting (configPath recordPath : String) : Reporter → List RaisedFault → Reporter → Prop
  | rest {r after : Reporter} :
    Undisturbed configPath recordPath r after → Faulting configPath recordPath r [] after
  | fault {r raised after : Reporter} {fault : RaisedFault} {faults : List RaisedFault} :
    Undisturbed configPath recordPath r raised → raised.storeBusy = false →
      Faulting configPath recordPath (raised.handleFault fault.address fault.pc fault.event) faults after →
      Faulting configPath recordPath r (fault :: faults) after

theorem Undisturbed.refl (configPath recordPath : String) (r : Reporter) : Undisturbed configPath recordPath r r :=
  ⟨rfl, ⟨rfl, rfl⟩, ⟨rfl, rfl⟩⟩

/-! ## The record file -/

section
variable {configPath : String} {config : FaultConfig} {m : MappedRecord} {r r' : Reporter}

theorem Ready.of_sameFiles {node : Nat} {t t' : FileTree} (h : Ready configPath config node t)
    (hconfig : SameFile configPath t t') (hrecord : SameFile config.store.recordPath t t') :
    Ready configPath config node t' ∧ t'.content node = t.content node := by
  have hnamed : t'.fileAt? config.store.recordPath = some node := hrecord.file.trans h.named
  have hread : t'.read (.parse config.store.recordPath) = .ok (t.content node) :=
    hrecord.bytes.trans (read_eq_ok_iff.mpr ⟨node, h.named, rfl⟩)
  obtain ⟨found, hfound, hbytes⟩ := read_eq_ok_iff.mp hread
  have hnode : found = node := Option.some.inj (hfound.symm.trans hnamed)
  rw [hnode] at hbytes
  refine ⟨⟨?_, hnamed, ?_, ?_⟩, hbytes⟩
  · rw [load_of_read hconfig.bytes, h.loads]
  · rw [hconfig.file]
    exact h.apart
  · rw [hbytes, h.sized]

theorem install_eq_ok {installed : Reporter} (hbackend : config.store.backend = .file)
    (hinstall : r.install config = (.ok (), installed)) :
    ∃ m files, MappedRecord.openOrCreate config.store.recordPath r.files = (.ok m, files) ∧
      installed.store = some (.file m) ∧ installed.files = files := by
  have hinstalls := Reporter.installs config r
  rw [hinstall] at hinstalls
  cases hinstalls with
  | retained hretained =>
    rw [hbackend] at hretained
    cases hretained
  | @opened m files _ hopen => exact ⟨m, files, hopen, rfl, rfl⟩

/-- A successful installation puts everything in order. -/
theorem ready_of_install {installed : Reporter} (hload : FaultConfig.load r.files configPath = .ok config)
    (hbackend : config.store.backend = .file) (hinstall : r.install config = (.ok (), installed))
    (hapart : installed.files.fileAt? configPath ≠ installed.files.fileAt? config.store.recordPath) :
    ∃ m, installed.store = some (.file m) ∧ Ready configPath config m.node installed.files := by
  obtain ⟨m, files, hopen, hstore, hfiles⟩ := install_eq_ok hbackend hinstall
  obtain ⟨-, hnamed, hsize⟩ := MappedRecord.openOrCreate_eq_ok hopen
  have hext := MappedRecord.openOrCreate_extends config.store.recordPath r.files
  rw [hopen] at hext
  obtain ⟨place, hplace⟩ := fileAt?_of_load hload
  have hplace' : files.fileAt? configPath = some place := hext.fileAt? hplace
  rw [hfiles, hplace', hnamed] at hapart
  have hne : place ≠ m.node := fun heq => hapart (congrArg some heq)
  refine ⟨m, hstore, ?_, ?_, ?_, ?_⟩
  · have hread : files.read (.parse configPath) = r.files.read (.parse configPath) := by
      rw [read_eq_ok_iff.mpr ⟨place, hplace, rfl⟩]
      exact read_eq_ok_iff.mpr ⟨place, hplace', MappedRecord.openOrCreate_content_of_ne hopen hne⟩
    rw [hfiles, load_of_read hread, hload]
  · rw [hfiles, hnamed]
  · rw [hfiles, hplace']
    exact hapart
  · rw [hfiles, hsize]

/-- A fault that is handled with the store free leaves its record in the record file. -/
theorem Ready.handleFault {raised : Reporter} (h : Ready configPath config m.node raised.files)
    (hstore : raised.store = some (.file m)) (hfree : raised.storeBusy = false) (fault : RaisedFault) :
    let handled := raised.handleFault fault.address fault.pc fault.event
    handled.store = some (.file m) ∧ Ready configPath config m.node handled.files ∧
      Image.decode? (handled.files.content m.node) = some fault.record := by
  intro handled
  have hhandled : handled = _ := Reporter.handleFault_of_file fault.address fault.pc fault.event hfree hstore
  have hfiles : handled.files = m.save fault.record raised.files := by
    rw [hhandled]
    rfl
  have hkept : handled.store = some (.file m) := by
    rw [hhandled]
    exact hstore
  refine ⟨hkept, ?_, ?_⟩
  · rw [hfiles]
    exact h.setContent ((Image.length_save _ _).trans h.sized)
  · rw [hfiles]
    exact MappedRecord.load_save h.sized fault.record

/-- **The record file holds the last fault**, or what it held before if there was none. -/
theorem Faulting.ready {faults : List RaisedFault}
    (hfaults : Faulting configPath config.store.recordPath r faults r') (hstore : r.store = some (.file m))
    (h : Ready configPath config m.node r.files) :
    Ready configPath config m.node r'.files ∧
      Image.decode? (r'.files.content m.node) =
        (faults.getLast?.map RaisedFault.record).or (Image.decode? (r.files.content m.node)) := by
  induction hfaults with
  | rest hundisturbed =>
    obtain ⟨hready, hbytes⟩ := h.of_sameFiles hundisturbed.config hundisturbed.record
    exact ⟨hready, congrArg Image.decode? hbytes⟩
  | @fault _ raised _ fault faults hundisturbed hfree _ ih =>
    -- what the record file held when the fault came is lost, so only the size of the file is carried over
    obtain ⟨hready, -⟩ := h.of_sameFiles hundisturbed.config hundisturbed.record
    obtain ⟨hkept, hhandled, hrecord⟩ := hready.handleFault (hundisturbed.store.trans hstore) hfree fault
    obtain ⟨hafter, hlast⟩ := ih hkept hhandled
    refine ⟨hafter, ?_⟩
    rw [hlast, hrecord, List.getLast?_cons]
    cases faults.getLast? <;> rfl

/-! ## Faults by way of the standard handler -/

/-- Whatever the sink, faults that come to the standard handler are handled one after the other. -/
theorem faulting_standardHandler (configPath recordPath : String) (hfree : r.storeBusy = false)
    (faults : List RaisedFault) :
    Faulting configPath recordPath r faults
      (faults.foldl (fun r fault => r.standardHandler fault.address fault.pc fault.event) r) := by
  induction faults generalizing r with
  | nil => exact .rest (Undisturbed.refl configPath recordPath r)
  | cons fault faults ih =>
    obtain ⟨log, printed, hreport⟩ := Reporter.report_eq fault.address fault.pc fault.event r
    have hundisturbed : Undisturbed configPath recordPath r (r.report fault.address fault.pc fault.event) := by
      rw [hreport]
      exact ⟨rfl, ⟨rfl, rfl⟩, ⟨rfl, rfl⟩⟩
    have hreported : (r.report fault.address fault.pc fault.event).storeBusy = false := by
      rw [hreport]
      exact hfree
    have hhandled := Reporter.storeBusy_handleFault fault.address fault.pc fault.event
      (r.report fault.address fault.pc fault.event)
    exact .fault hundisturbed hreported (ih (hhandled.trans hreported))

/-! ## Runs after faults -/

/-- The files after runs one after the other. -/
def filesAfter (files : FileTree) (runs : List (List String)) : FileTree :=
  runs.foldl (fun files words => (run words files).files) files

/-- Runs over a record file without a record leave it as it is. -/
theorem Ready.filesAfter {node : Nat} {t : FileTree} (h : Ready configPath config node t)
    (hnone : Image.decode? (t.content node) = none) {runs : List (List String)}
    (hruns : ∀ words ∈ runs, ∃ clear, Asks configPath clear words) : filesAfter t runs = t := by
  induction runs with
  | nil => rfl
  | cons words runs ih =>
    obtain ⟨clear, hwords⟩ := hruns words List.mem_cons_self
    obtain ⟨-, -, hfiles⟩ := h.run hwords
    have hsame : (Inspector.run words t).files = t := by simpa [hnone] using hfiles
    rw [Inspector.filesAfter, List.foldl_cons, hsame]
    exact ih fun words hwords => hruns words (List.mem_cons_of_mem _ hwords)

end

/-- **The inspector shows the last fault, and after it has cleared the record file, that there is none.** -/
theorem run_after_faults {configPath : String} {config : FaultConfig} {r installed after : Reporter}
    {faults : List RaisedFault} {last : RaisedFault} {clear : Bool} {words : List String}
    (hload : FaultConfig.load r.files configPath = .ok config) (hbackend : config.store.backend = .file)
    (hinstall : r.install config = (.ok (), installed))
    (hapart : installed.files.fileAt? configPath ≠ installed.files.fileAt? config.store.recordPath)
    (hfaults : Faulting configPath config.store.recordPath installed faults after)
    (hlast : faults.getLast? = some last) (hwords : Asks configPath clear words) :
    (run words after.files).exitCode = 0 ∧
      (run words after.files).output = Text.Utf8.encode (Report.ofRecord? (some last.record)).text ∧
      (clear = true → ∀ (further : List (List String)) (again : List String),
        (∀ words ∈ further, ∃ clear, Asks configPath clear words) → (∃ clear, Asks configPath clear again) →
          (run again (filesAfter (run words after.files).files further)).exitCode = 0 ∧
            (run again (filesAfter (run words after.files).files further)).output =
              Text.Utf8.encode "No fault record.\r\n") := by
  obtain ⟨m, hstore, hready⟩ := ready_of_install hload hbackend hinstall hapart
  obtain ⟨hready, hrecord⟩ := hfaults.ready hstore hready
  rw [hlast, Option.map_some, Option.some_or] at hrecord
  obtain ⟨hcode, houtput, hfiles⟩ := hready.run hwords
  rw [hrecord] at houtput hfiles
  refine ⟨hcode, houtput, ?_⟩
  rintro rfl further again hfurther ⟨clear, hagain⟩
  have hnext := hready.files_run hwords
  have hnone : Image.decode? ((run words after.files).files.content m.node) = none := by
    rw [hfiles]
    exact MappedRecord.load_clear hready.sized
  rw [hnext.filesAfter hnone hfurther]
  obtain ⟨hcode, houtput, -⟩ := hnext.run hagain
  rw [hnone] at houtput
  exact ⟨hcode, houtput⟩

/-- A program that reports to both sinks fails twice, and its record file is shown and cleared. -/
theorem run_after_two_faults :
    let document := "shared.service_name='x'\nreport.sink='both'\nstore.backend='file'\nstore.path='d/record.bin'"
    let files := (fresh ["work"]).withFile (.parse "fault.toml") (Text.Utf8.encode document)
    let config : FaultConfig := ⟨⟨.info, "x"⟩, ⟨.both⟩, ⟨.file, some "d/record.bin"⟩⟩
    let last : RaisedFault := ⟨0x1000, 5, .error (.bare ⟨3⟩)⟩
    let faults : List RaisedFault := [⟨0x1000, 4, .unknown ⟨9⟩ 1⟩, last]
    let words := ["--clear", "-v", "--config=fault.toml"]
    FaultConfig.load files "fault.toml" = .ok config ∧
      ∃ installed, Reporter.install config { files := files } = (.ok (), installed) ∧
        let after := faults.foldl (fun r fault => r.standardHandler fault.address fault.pc fault.event) installed
        (run words after.files).output = Text.Utf8.encode (Report.ofRecord? (some last.record)).text ∧
          (run ["-c", "fault.toml"] (run words after.files).files).output =
            Text.Utf8.encode "No fault record.\r\n" := by
  intro document files config last faults words
  have hload : FaultConfig.load files "fault.toml" = .ok config := by
    have hsome : (FaultConfig.load files "fault.toml").toOption = some config := by decide +kernel
    exact Outcome.eq_ok_of_toOption hsome
  have hinstalled : ∃ installed, Reporter.install config { files := files } = (.ok (), installed) ∧
      installed.files.fileAt? "fault.toml" ≠ installed.files.fileAt? config.store.recordPath ∧
      installed.storeBusy = false := by
    have hsome : (Reporter.install config { files := files }).1.toOption = some () := by decide +kernel
    have hapart : (Reporter.install config { files := files }).2.files.fileAt? "fault.toml" ≠
        (Reporter.install config { files := files }).2.files.fileAt? config.store.recordPath := by decide +kernel
    have hfree : (Reporter.install config { files := files }).2.storeBusy = false := by decide +kernel
    generalize Reporter.install config { files := files } = outcome at hsome hapart hfree ⊢
    obtain ⟨result, installed⟩ := outcome
    exact ⟨installed, congrArg (fun result => (result, installed)) (Outcome.eq_ok_of_toOption hsome), hapart, hfree⟩
  obtain ⟨installed, hinstall, hapart, hfree⟩ := hinstalled
  have hfaults := faulting_standardHandler "fault.toml" config.store.recordPath hfree faults
  have hwords : Asks "fault.toml" true words := ⟨⟨some "fault.toml", none, true, true, false⟩, rfl, rfl, rfl, rfl⟩
  have hagain : Asks "fault.toml" false ["-c", "fault.toml"] :=
    ⟨⟨some "fault.toml", none, false, false, false⟩, rfl, rfl, rfl, rfl⟩
  have hbackend : config.store.backend = .file := rfl
  have hlast : faults.getLast? = some last := rfl
  obtain ⟨-, hshown, hcleared⟩ :=
    run_after_faults (r := { files := files }) hload hbackend hinstall hapart hfaults hlast hwords
  have hfurther : ∀ words ∈ ([] : List (List String)), ∃ clear, Asks "fault.toml" clear words := by simp
  obtain ⟨-, hnone⟩ := hcleared rfl [] ["-c", "fault.toml"] hfurther ⟨false, hagain⟩
  rw [filesAfter, List.foldl_nil] at hnone
  exact ⟨hload, installed, hinstall, hshown, hnone⟩

end PostMortem.Inspector
