import PostMortem.Proofs.Config.Tables

/-! # Which tables are configurations

For the root table and for each section it is said what the keys describe, without a word about how they are read: which
names there may be, and what each field is. What is accepted is then exactly what describes something.

* `SharedConfig.DescribedBy`, `ReportConfig.DescribedBy`, `StoreConfig.DescribedBy`: what the keys of a section say.
* `FaultConfig.Regular`: tables where sections belong, and scalars where names do.
* `FaultConfig.ofEntries_eq_ok_iff`: the root tables that are accepted, with what they stand for.
-/
set_option autoImplicit false

namespace PostMortem

open Toml

/-! ## The common fields -/

namespace SharedConfig

/-- What the keys of the section say. -/
structure DescribedBy (entries : Entries) (config : SharedConfig) : Prop where
  names : ∀ name ∈ entries.names, name ∈ ["log_level", "service_name"]
  logLevel : (entries.value? "log_level").getD (.ofString "info") = .ofString config.logLevel.name
  serviceName : entries.value? "service_name" = some (.ofString config.serviceName)

theorem Draft.add_eq_ok_iff {draft next : Draft} {key : Key} {mark : Mark} {node : Node} :
    draft.add (key, mark, node) = .ok next ↔
      (key.name = "log_level" ∧
        ∃ logLevel, Severity.decode mark node = .ok logLevel ∧ { draft with logLevel := some logLevel } = next) ∨
      (key.name = "service_name" ∧
        ∃ serviceName, decodeName mark node = .ok serviceName ∧
          { draft with serviceName := some serviceName } = next) := by
  unfold add
  dsimp only
  split
  · next hname => simp [hname, Outcome.bind_eq_ok_iff, Outcome.pure_eq_ok]
  · next hname => simp [hname, Outcome.bind_eq_ok_iff, Outcome.pure_eq_ok]
  · next hlevel hservice =>
    exact iff_of_false (Outcome.error_ne_ok _ _) (not_or.mpr ⟨fun h => hlevel h.1, fun h => hservice h.1⟩)

theorem Draft.name_of_add {draft next : Draft} {key : Key} {mark : Mark} {node : Node}
    (h : draft.add (key, mark, node) = .ok next) : key.name ∈ ["log_level", "service_name"] := by
  rcases add_eq_ok_iff.mp h with ⟨hname, -⟩ | ⟨hname, -⟩ <;> simp [hname]

theorem Draft.field_logLevel : Decode.Field add "log_level" (fun draft => draft.logLevel.getD default)
    fun node logLevel => ∃ mark, Severity.decode mark node = .ok logLevel := by
  intro draft next key mark node hadd
  rcases add_eq_ok_iff.mp hadd with ⟨hname, logLevel, hdecode, rfl⟩ | ⟨hname, serviceName, -, rfl⟩
  · exact .inl ⟨hname, mark, hdecode⟩
  · exact .inr ⟨by simp [hname], rfl⟩

theorem Draft.field_serviceName : Decode.Field add "service_name" Draft.serviceName
    fun node serviceName => ∃ mark s, decodeName mark node = .ok s ∧ serviceName = some s := by
  intro draft next key mark node hadd
  rcases add_eq_ok_iff.mp hadd with ⟨hname, logLevel, -, rfl⟩ | ⟨hname, serviceName, hdecode, rfl⟩
  · exact .inr ⟨by simp [hname], rfl⟩
  · exact .inl ⟨hname, mark, serviceName, hdecode, rfl⟩

variable {entries : Entries} {config : SharedConfig} {mark : Mark}

theorem DescribedBy.unique {other : SharedConfig} (h : DescribedBy entries config)
    (hother : DescribedBy entries other) : config = other := by
  have hlevel := Node.ofString_inj.mp (h.logLevel.symm.trans hother.logLevel)
  have hservice := h.serviceName.symm.trans hother.serviceName
  rw [Option.some.injEq, Node.ofString_inj] at hservice
  obtain ⟨logLevel, serviceName⟩ := config
  obtain ⟨otherLevel, otherName⟩ := other
  cases Severity.name_inj hlevel
  cases hservice
  rfl

/-- A section that is accepted says what it is read as. -/
theorem describedBy_of_ofEntries (hdistinct : entries.Distinct)
    (hscalar : (entries.value? "log_level").all Node.isScalar = true) (h : ofEntries mark entries = .ok config) :
    DescribedBy entries config := by
  rw [ofEntries, Outcome.bind_eq_ok_iff] at h
  obtain ⟨draft, hread, h⟩ := h
  rcases Draft.field_serviceName.read hdistinct hread with ⟨-, hnone⟩ | ⟨node, hvalue, mark, s, hdecode, hsome⟩
  · rw [hnone] at h
    cases h
  · rw [hsome] at h
    cases h
    rw [Decode.string_eq_ok_iff.mp hdecode] at hvalue
    exact ⟨Decode.names_of_read Draft.name_of_add hread,
      Draft.field_logLevel.named Severity.ofName?_eq_some_iff hdistinct hscalar hread, hvalue⟩

theorem DescribedBy.exists_add (h : DescribedBy entries config) {key : Key} {node : Node}
    (hname : key.name ∈ entries.names) (hvalue : entries.value? key.name = some node) (draft : Draft) :
    ∃ next, draft.add (key, mark, node) = .ok next := by
  have hname := h.names key.name hname
  simp only [List.mem_cons, List.not_mem_nil, or_false] at hname
  rcases hname with hname | hname
  · have hlevel := h.logLevel
    rw [← hname, hvalue, Option.getD_some] at hlevel
    exact ⟨_, Draft.add_eq_ok_iff.mpr (.inl ⟨hname, _, hlevel ▸ Severity.decode_ofString _ _, rfl⟩)⟩
  · have hservice := h.serviceName
    rw [← hname, hvalue, Option.some.injEq] at hservice
    exact ⟨_, Draft.add_eq_ok_iff.mpr (.inr ⟨hname, _, Decode.string_eq_ok_iff.mpr hservice, rfl⟩)⟩

/-- A section that says what a configuration is can be read. -/
theorem DescribedBy.exists_ofEntries (h : DescribedBy entries config) (hdistinct : entries.Distinct) (mark : Mark) :
    ∃ other, ofEntries mark entries = .ok other := by
  obtain ⟨draft, hread⟩ := Decode.exists_read hdistinct h.exists_add {}
  rcases Draft.field_serviceName.read hdistinct hread with ⟨hnone, -⟩ | ⟨-, -, -, serviceName, -, hsome⟩
  · rw [h.serviceName] at hnone
    cases hnone
  · refine ⟨⟨draft.logLevel.getD default, serviceName⟩, ?_⟩
    rw [ofEntries, Outcome.bind_eq_ok_iff]
    refine ⟨draft, hread, ?_⟩
    rw [hsome]
    rfl

theorem ofEntries_eq_ok_iff (hdistinct : entries.Distinct)
    (hscalar : (entries.value? "log_level").all Node.isScalar = true) :
    ofEntries mark entries = .ok config ↔ DescribedBy entries config :=
  Outcome.eq_ok_iff_of_unique (describedBy_of_ofEntries hdistinct hscalar) DescribedBy.unique
    fun h => h.exists_ofEntries hdistinct mark

end SharedConfig

/-! ## How faults are reported -/

namespace ReportConfig

/-- What the keys of the section say. -/
structure DescribedBy (entries : Entries) (config : ReportConfig) : Prop where
  names : ∀ name ∈ entries.names, name ∈ ["sink"]
  sink : (entries.value? "sink").getD (.ofString "log") = .ofString config.sink.name

theorem describedBy_nil : DescribedBy [] {} := ⟨nofun, rfl⟩

theorem add_eq_ok_iff {config next : ReportConfig} {key : Key} {mark : Mark} {node : Node} :
    config.add (key, mark, node) = .ok next ↔
      key.name = "sink" ∧ ∃ sink, SinkKind.decode mark node = .ok sink ∧ { config with sink := sink } = next := by
  unfold add
  dsimp only
  split
  · next hname => simp [hname, Outcome.bind_eq_ok_iff, Outcome.pure_eq_ok]
  · next hsink => exact iff_of_false (Outcome.error_ne_ok _ _) fun h => hsink h.1

theorem name_of_add {config next : ReportConfig} {key : Key} {mark : Mark} {node : Node}
    (h : config.add (key, mark, node) = .ok next) : key.name ∈ ["sink"] :=
  List.mem_singleton.mpr (add_eq_ok_iff.mp h).1

theorem field_sink : Decode.Field add "sink" sink fun node sink => ∃ mark, SinkKind.decode mark node = .ok sink := by
  intro config next key mark node hadd
  obtain ⟨hname, sink, hdecode, rfl⟩ := add_eq_ok_iff.mp hadd
  exact .inl ⟨hname, mark, hdecode⟩

variable {entries : Entries} {config : ReportConfig} {mark : Mark}

theorem DescribedBy.unique {other : ReportConfig} (h : DescribedBy entries config)
    (hother : DescribedBy entries other) : config = other := by
  have hsink := Node.ofString_inj.mp (h.sink.symm.trans hother.sink)
  obtain ⟨sink⟩ := config
  obtain ⟨otherSink⟩ := other
  cases SinkKind.name_inj hsink
  rfl

theorem describedBy_of_ofEntries (hdistinct : entries.Distinct)
    (hscalar : (entries.value? "sink").all Node.isScalar = true) (h : ofEntries mark entries = .ok config) :
    DescribedBy entries config :=
  ⟨Decode.names_of_read name_of_add h, field_sink.named SinkKind.ofName?_eq_some_iff hdistinct hscalar h⟩

theorem DescribedBy.exists_add (h : DescribedBy entries config) {key : Key} {node : Node}
    (hname : key.name ∈ entries.names) (hvalue : entries.value? key.name = some node) (before : ReportConfig) :
    ∃ next, before.add (key, mark, node) = .ok next := by
  have hname := List.mem_singleton.mp (h.names key.name hname)
  have hsink := h.sink
  rw [← hname, hvalue, Option.getD_some] at hsink
  exact ⟨_, add_eq_ok_iff.mpr ⟨hname, _, hsink ▸ SinkKind.decode_ofString _ _, rfl⟩⟩

theorem ofEntries_eq_ok_iff (hdistinct : entries.Distinct)
    (hscalar : (entries.value? "sink").all Node.isScalar = true) :
    ofEntries mark entries = .ok config ↔ DescribedBy entries config :=
  Outcome.eq_ok_iff_of_unique (describedBy_of_ofEntries hdistinct hscalar) DescribedBy.unique
    fun h => Decode.exists_read hdistinct h.exists_add {}

end ReportConfig

/-! ## How records are kept -/

namespace StoreConfig

/-- What the keys of the section say. -/
structure DescribedBy (entries : Entries) (config : StoreConfig) : Prop where
  names : ∀ name ∈ entries.names, name ∈ ["backend", "path"]
  backend : (entries.value? "backend").getD (.ofString "retained") = .ofString config.backend.name
  path : entries.value? "path" = config.path.map .ofString

theorem describedBy_nil : DescribedBy [] {} := ⟨nofun, rfl, rfl⟩

theorem decodePath_eq_ok_iff {mark : Mark} {node : Node} {path : Option String} :
    decodePath mark node = .ok path ↔ ∃ s, node = .ofString s ∧ some s = path := by
  have hmap : decodePath mark node = .ok path ↔
      ∃ s, Decode.string "path string" mark node = .ok s ∧ some s = path := Outcome.map_eq_ok_iff
  simp only [hmap, Decode.string_eq_ok_iff]

theorem add_eq_ok_iff {config next : StoreConfig} {key : Key} {mark : Mark} {node : Node} :
    config.add (key, mark, node) = .ok next ↔
      (key.name = "backend" ∧
        ∃ backend, Backend.decode mark node = .ok backend ∧ { config with backend := backend } = next) ∨
      (key.name = "path" ∧ ∃ path, decodePath mark node = .ok path ∧ { config with path := path } = next) := by
  unfold add
  dsimp only
  split
  · next hname => simp [hname, Outcome.bind_eq_ok_iff, Outcome.pure_eq_ok]
  · next hname => simp [hname, Outcome.bind_eq_ok_iff, Outcome.pure_eq_ok]
  · next hbackend hpath =>
    exact iff_of_false (Outcome.error_ne_ok _ _) (not_or.mpr ⟨fun h => hbackend h.1, fun h => hpath h.1⟩)

theorem name_of_add {config next : StoreConfig} {key : Key} {mark : Mark} {node : Node}
    (h : config.add (key, mark, node) = .ok next) : key.name ∈ ["backend", "path"] := by
  rcases add_eq_ok_iff.mp h with ⟨hname, -⟩ | ⟨hname, -⟩ <;> simp [hname]

theorem field_backend :
    Decode.Field add "backend" backend fun node backend => ∃ mark, Backend.decode mark node = .ok backend := by
  intro config next key mark node hadd
  rcases add_eq_ok_iff.mp hadd with ⟨hname, backend, hdecode, rfl⟩ | ⟨hname, path, -, rfl⟩
  · exact .inl ⟨hname, mark, hdecode⟩
  · exact .inr ⟨by simp [hname], rfl⟩

theorem field_path :
    Decode.Field add "path" path fun node path => ∃ s, node = .ofString s ∧ some s = path := by
  intro config next key mark node hadd
  rcases add_eq_ok_iff.mp hadd with ⟨hname, backend, -, rfl⟩ | ⟨hname, path, hdecode, rfl⟩
  · exact .inr ⟨by simp [hname], rfl⟩
  · exact .inl ⟨hname, decodePath_eq_ok_iff.mp hdecode⟩

variable {entries : Entries} {config : StoreConfig} {mark : Mark}

theorem DescribedBy.unique {other : StoreConfig} (h : DescribedBy entries config)
    (hother : DescribedBy entries other) : config = other := by
  have hbackend := Node.ofString_inj.mp (h.backend.symm.trans hother.backend)
  have hpath := h.path.symm.trans hother.path
  obtain ⟨backend, path⟩ := config
  obtain ⟨otherBackend, otherPath⟩ := other
  cases Backend.name_inj hbackend
  cases Option.map_injective (fun _ _ => Node.ofString_inj.mp) hpath
  rfl

theorem describedBy_of_ofEntries (hdistinct : entries.Distinct)
    (hscalar : (entries.value? "backend").all Node.isScalar = true) (h : ofEntries mark entries = .ok config) :
    DescribedBy entries config := by
  refine ⟨Decode.names_of_read name_of_add h, field_backend.named Backend.ofName?_eq_some_iff hdistinct hscalar h, ?_⟩
  rcases field_path.read hdistinct h with ⟨hvalue, hpath⟩ | ⟨node, hvalue, s, rfl, hpath⟩
  · rw [hvalue, hpath]
    rfl
  · rw [hvalue, ← hpath]
    rfl

theorem DescribedBy.exists_add (h : DescribedBy entries config) {key : Key} {node : Node}
    (hname : key.name ∈ entries.names) (hvalue : entries.value? key.name = some node) (before : StoreConfig) :
    ∃ next, before.add (key, mark, node) = .ok next := by
  have hname := h.names key.name hname
  simp only [List.mem_cons, List.not_mem_nil, or_false] at hname
  rcases hname with hname | hname
  · have hbackend := h.backend
    rw [← hname, hvalue, Option.getD_some] at hbackend
    exact ⟨_, add_eq_ok_iff.mpr (.inl ⟨hname, _, hbackend ▸ Backend.decode_ofString _ _, rfl⟩)⟩
  · have hpath := h.path
    rw [← hname, hvalue, eq_comm, Option.map_eq_some_iff] at hpath
    obtain ⟨s, -, rfl⟩ := hpath
    exact ⟨_, add_eq_ok_iff.mpr (.inr ⟨hname, _, decodePath_eq_ok_iff.mpr ⟨s, rfl, rfl⟩, rfl⟩)⟩

theorem ofEntries_eq_ok_iff (hdistinct : entries.Distinct)
    (hscalar : (entries.value? "backend").all Node.isScalar = true) :
    ofEntries mark entries = .ok config ↔ DescribedBy entries config :=
  Outcome.eq_ok_iff_of_unique (describedBy_of_ofEntries hdistinct hscalar) DescribedBy.unique
    fun h => Decode.exists_read hdistinct h.exists_add {}

end StoreConfig

/-! ## The whole -/

namespace FaultConfig

/-- The sections that are there are tables, and where a name belongs there is a scalar if anything. -/
def Regular (root : Entries) : Prop :=
  (∀ name ∈ ["shared", "report", "store"], (root.value? name).all Node.isTable = true) ∧
    ∀ field ∈ [("shared", "log_level"), ("report", "sink"), ("store", "backend")],
      ((root.sectionAt field.1).value? field.2).all Node.isScalar = true

instance (root : Entries) : Decidable (Regular root) := inferInstanceAs (Decidable (_ ∧ _))

/-- What the keys of the root table say. -/
structure DescribedBy (root : Entries) (config : FaultConfig) : Prop where
  names : ∀ name ∈ root.names, name ∈ ["shared", "report", "store"]
  shared : config.shared.DescribedBy (root.sectionAt "shared")
  report : config.report.DescribedBy (root.sectionAt "report")
  store : config.store.DescribedBy (root.sectionAt "store")

theorem Draft.add_eq_ok_iff {draft next : Draft} {key : Key} {mark : Mark} {node : Node} :
    draft.add (key, mark, node) = .ok next ↔
      (key.name = "shared" ∧
        ∃ shared, SharedConfig.decode mark node = .ok shared ∧ { draft with shared := some shared } = next) ∨
      (key.name = "report" ∧
        ∃ report, ReportConfig.decode mark node = .ok report ∧ { draft with report := report } = next) ∨
      (key.name = "store" ∧
        ∃ store, StoreConfig.decode mark node = .ok store ∧ { draft with store := store } = next) := by
  unfold add
  dsimp only
  split
  · next hname => simp [hname, Outcome.bind_eq_ok_iff, Outcome.pure_eq_ok]
  · next hname => simp [hname, Outcome.bind_eq_ok_iff, Outcome.pure_eq_ok]
  · next hname => simp [hname, Outcome.bind_eq_ok_iff, Outcome.pure_eq_ok]
  · next hshared hreport hstore =>
    refine iff_of_false (Outcome.error_ne_ok _ _) ?_
    rintro (⟨hname, -⟩ | ⟨hname, -⟩ | ⟨hname, -⟩)
    · exact hshared hname
    · exact hreport hname
    · exact hstore hname

theorem Draft.name_of_add {draft next : Draft} {key : Key} {mark : Mark} {node : Node}
    (h : draft.add (key, mark, node) = .ok next) : key.name ∈ ["shared", "report", "store"] := by
  rcases add_eq_ok_iff.mp h with ⟨hname, -⟩ | ⟨hname, -⟩ | ⟨hname, -⟩ <;> simp [hname]

theorem Draft.field_shared : Decode.Field add "shared" Draft.shared
    fun node shared => ∃ mark s, SharedConfig.decode mark node = .ok s ∧ shared = some s := by
  intro draft next key mark node hadd
  rcases add_eq_ok_iff.mp hadd with ⟨hname, shared, hdecode, rfl⟩ | ⟨hname, -, -, rfl⟩ | ⟨hname, -, -, rfl⟩
  · exact .inl ⟨hname, mark, shared, hdecode, rfl⟩
  · exact .inr ⟨by simp [hname], rfl⟩
  · exact .inr ⟨by simp [hname], rfl⟩

theorem Draft.field_report : Decode.Field add "report" Draft.report
    fun node report => ∃ mark, ReportConfig.decode mark node = .ok report := by
  intro draft next key mark node hadd
  rcases add_eq_ok_iff.mp hadd with ⟨hname, -, -, rfl⟩ | ⟨hname, report, hdecode, rfl⟩ | ⟨hname, -, -, rfl⟩
  · exact .inr ⟨by simp [hname], rfl⟩
  · exact .inl ⟨hname, mark, hdecode⟩
  · exact .inr ⟨by simp [hname], rfl⟩

theorem Draft.field_store : Decode.Field add "store" Draft.store
    fun node store => ∃ mark, StoreConfig.decode mark node = .ok store := by
  intro draft next key mark node hadd
  rcases add_eq_ok_iff.mp hadd with ⟨hname, -, -, rfl⟩ | ⟨hname, -, -, rfl⟩ | ⟨hname, store, hdecode, rfl⟩
  · exact .inr ⟨by simp [hname], rfl⟩
  · exact .inr ⟨by simp [hname], rfl⟩
  · exact .inl ⟨hname, mark, hdecode⟩

variable {root : Entries} {config : FaultConfig} {mark : Mark}

theorem DescribedBy.unique {other : FaultConfig} (h : DescribedBy root config) (hother : DescribedBy root other) :
    config = other := by
  obtain ⟨shared, report, store⟩ := config
  obtain ⟨otherShared, otherReport, otherStore⟩ := other
  cases h.shared.unique hother.shared
  cases h.report.unique hother.report
  cases h.store.unique hother.store
  rfl

/-- What is under the name of a section is the table of its entries. -/
theorem Regular.table (h : Regular root) {name : String} (hname : name ∈ ["shared", "report", "store"]) {node : Node}
    (hvalue : root.value? name = some node) : ∃ kind, node = .table kind (root.sectionAt name) := by
  have htable := h.1 name hname
  rw [hvalue, Option.all_some] at htable
  cases node with
  | scalar => cases htable
  | array => cases htable
  | tables => cases htable
  | table kind inner => exact ⟨kind, by rw [Entries.sectionAt_of_table hvalue]⟩

theorem Regular.shared_iff (h : Regular root) (hdistinct : root.Distinct) {kind : TableKind} {shared : SharedConfig} :
    SharedConfig.decode mark (.table kind (root.sectionAt "shared")) = .ok shared ↔
      shared.DescribedBy (root.sectionAt "shared") := by
  rw [SharedConfig.decode, Decode.sectionOf]
  exact SharedConfig.ofEntries_eq_ok_iff (hdistinct.sectionAt _) (h.2 ("shared", "log_level") (by simp))

theorem Regular.report_iff (h : Regular root) (hdistinct : root.Distinct) {kind : TableKind} {report : ReportConfig} :
    ReportConfig.decode mark (.table kind (root.sectionAt "report")) = .ok report ↔
      report.DescribedBy (root.sectionAt "report") := by
  rw [ReportConfig.decode, Decode.sectionOf]
  exact ReportConfig.ofEntries_eq_ok_iff (hdistinct.sectionAt _) (h.2 ("report", "sink") (by simp))

theorem Regular.store_iff (h : Regular root) (hdistinct : root.Distinct) {kind : TableKind} {store : StoreConfig} :
    StoreConfig.decode mark (.table kind (root.sectionAt "store")) = .ok store ↔
      store.DescribedBy (root.sectionAt "store") := by
  rw [StoreConfig.decode, Decode.sectionOf]
  exact StoreConfig.ofEntries_eq_ok_iff (hdistinct.sectionAt _) (h.2 ("store", "backend") (by simp))

theorem describedBy_of_ofEntries (hdistinct : root.Distinct) (hregular : Regular root)
    (h : ofEntries mark root = .ok config) : DescribedBy root config := by
  rw [ofEntries, Outcome.bind_eq_ok_iff] at h
  obtain ⟨draft, hread, h⟩ := h
  rcases Draft.field_shared.read hdistinct hread with ⟨-, hnone⟩ | ⟨node, hvalue, mark, shared, hshared, hsome⟩
  · rw [hnone] at h
    cases h
  · rw [hsome] at h
    cases h
    refine ⟨Decode.names_of_read Draft.name_of_add hread, ?_, ?_, ?_⟩
    · obtain ⟨kind, rfl⟩ := hregular.table (by simp) hvalue
      exact (hregular.shared_iff hdistinct).mp hshared
    · rcases Draft.field_report.read hdistinct hread with ⟨hvalue, hreport⟩ | ⟨node, hvalue, mark, hreport⟩
      · rw [Entries.sectionAt_of_none hvalue, hreport]
        exact ReportConfig.describedBy_nil
      · obtain ⟨kind, rfl⟩ := hregular.table (by simp) hvalue
        exact (hregular.report_iff hdistinct).mp hreport
    · rcases Draft.field_store.read hdistinct hread with ⟨hvalue, hstore⟩ | ⟨node, hvalue, mark, hstore⟩
      · rw [Entries.sectionAt_of_none hvalue, hstore]
        exact StoreConfig.describedBy_nil
      · obtain ⟨kind, rfl⟩ := hregular.table (by simp) hvalue
        exact (hregular.store_iff hdistinct).mp hstore

theorem DescribedBy.exists_add (h : DescribedBy root config) (hdistinct : root.Distinct) (hregular : Regular root)
    {key : Key} {node : Node} (hname : key.name ∈ root.names) (hvalue : root.value? key.name = some node)
    (draft : Draft) : ∃ next, draft.add (key, mark, node) = .ok next := by
  have hname := h.names key.name hname
  obtain ⟨kind, rfl⟩ := hregular.table hname hvalue
  simp only [List.mem_cons, List.not_mem_nil, or_false] at hname
  rcases hname with hname | hname | hname
  · rw [hname]
    exact ⟨_, Draft.add_eq_ok_iff.mpr (.inl ⟨hname, _, (hregular.shared_iff hdistinct).mpr h.shared, rfl⟩)⟩
  · rw [hname]
    exact ⟨_, Draft.add_eq_ok_iff.mpr (.inr (.inl ⟨hname, _, (hregular.report_iff hdistinct).mpr h.report, rfl⟩))⟩
  · rw [hname]
    exact ⟨_, Draft.add_eq_ok_iff.mpr (.inr (.inr ⟨hname, _, (hregular.store_iff hdistinct).mpr h.store, rfl⟩))⟩

theorem DescribedBy.exists_ofEntries (h : DescribedBy root config) (hdistinct : root.Distinct)
    (hregular : Regular root) (mark : Mark) : ∃ other, ofEntries mark root = .ok other := by
  obtain ⟨draft, hread⟩ := Decode.exists_read hdistinct (h.exists_add hdistinct hregular) {}
  rcases Draft.field_shared.read hdistinct hread with ⟨hnone, -⟩ | ⟨-, -, -, shared, -, hsome⟩
  · have hservice := h.shared.serviceName
    rw [Entries.sectionAt_of_none hnone] at hservice
    cases hservice
  · refine ⟨⟨shared, draft.report, draft.store⟩, ?_⟩
    rw [ofEntries, Outcome.bind_eq_ok_iff]
    refine ⟨draft, hread, ?_⟩
    rw [hsome]
    rfl

/-- **A root table is accepted as the configuration that its keys describe, and only as that.** -/
theorem ofEntries_eq_ok_iff (hdistinct : root.Distinct) (hregular : Regular root) :
    ofEntries mark root = .ok config ↔ DescribedBy root config :=
  Outcome.eq_ok_iff_of_unique (describedBy_of_ofEntries hdistinct hregular) DescribedBy.unique
    fun h => h.exists_ofEntries hdistinct hregular mark

end FaultConfig

end PostMortem
