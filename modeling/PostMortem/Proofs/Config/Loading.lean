import PostMortem.Config.Load
import PostMortem.Proofs.Config.Decoding

/-! # What loading a configuration comes to

A file is not there, or it is not the text of a document with the form of a configuration, or a value in it is not an
allowed one, or it is loaded as what it says. Which of these it is, is said here of the document itself.

* `FaultConfig.BreaksForm`: what the form of a configuration rules out.
* `FaultConfig.exists_describedBy`: what is not ruled out describes a configuration.
* `FaultConfig.Unparsable`: the files that are no configuration.
* `FaultConfig.load_verdicts`: what loading comes to.
* `FaultConfig.load_otherLevel`: what it comes to if the log level alone is another one.
-/
set_option autoImplicit false

namespace PostMortem.FaultConfig

open Toml

/-! ## The form of a configuration -/

/-- The sections that there may be, with the fields of each. -/
def sections : List (String × List String) :=
  [("shared", ["log_level", "service_name"]), ("report", ["sink"]), ("store", ["backend", "path"])]

/-- The fields that are strings. -/
def strings : List (String × String) := [("shared", "service_name"), ("store", "path")]

/-- The fields that are one of some names. -/
def choices : List (String × String × List String) :=
  [("shared", "log_level", ["trace", "debug", "info", "warn", "error"]),
    ("report", "sink", ["log", "text", "both", "none"]), ("store", "backend", ["retained", "file"])]

/-- A root table that does not have the form of a configuration. -/
inductive BreaksForm (root : Entries) : Prop
  | unknownSection {name : String} : name ∈ root.names → (∀ part ∈ sections, name ≠ part.1) → BreaksForm root
  | unknownField {place name : String} {fields : List String} : (place, fields) ∈ sections →
    name ∈ (root.sectionAt place).names → name ∉ fields → BreaksForm root
  | noShared : root.value? "shared" = none → BreaksForm root
  | noServiceName : (root.sectionAt "shared").value? "service_name" = none → BreaksForm root
  | noString {place field : String} {node : Node} : (place, field) ∈ strings →
    (root.sectionAt place).value? field = some node → (∀ s, node ≠ .ofString s) → BreaksForm root
  | noName {place field : String} {names : List String} {node : Node} : (place, field, names) ∈ choices →
    (root.sectionAt place).value? field = some node → (∀ s ∈ names, node ≠ .ofString s) → BreaksForm root

variable {root : Entries} {config : FaultConfig}

/-! What is not ruled out, one rule after the other. -/

theorem mem_fields_of_not_breaksForm (h : ¬ BreaksForm root) {place : String} {fields : List String}
    (hplace : (place, fields) ∈ sections) : ∀ name ∈ (root.sectionAt place).names, name ∈ fields := by
  intro name hname
  by_contra hother
  exact h (.unknownField hplace hname hother)

theorem exists_ofString_of_not_breaksForm (h : ¬ BreaksForm root) {place field : String}
    (hfield : (place, field) ∈ strings) {node : Node} (hvalue : (root.sectionAt place).value? field = some node) :
    ∃ s, node = .ofString s := by
  by_contra hother
  exact h (.noString hfield hvalue fun s heq => hother ⟨s, heq⟩)

/-- A field that is one of some names, of which one is the default, holds the name of something. -/
theorem exists_name_of_not_breaksForm (h : ¬ BreaksForm root) {place field : String} {names : List String}
    (hfield : (place, field, names) ∈ choices) {α : Type} (all : List α) (label : α → String)
    (hlabels : ∀ s ∈ names, s ∈ all.map label) (initial : α) :
    ∃ a, ((root.sectionAt place).value? field).getD (.ofString (label initial)) = .ofString (label a) := by
  cases hvalue : (root.sectionAt place).value? field with
  | none => exact ⟨initial, rfl⟩
  | some node =>
    by_contra hother
    refine h (.noName hfield hvalue ?_)
    rintro s hs rfl
    obtain ⟨a, -, rfl⟩ := List.mem_map.mp (hlabels s hs)
    exact hother ⟨a, rfl⟩

/-- Whatever has the form of a configuration describes one. -/
theorem exists_describedBy (h : ¬ BreaksForm root) : ∃ config, DescribedBy root config := by
  have hnames : ∀ name ∈ root.names, name ∈ ["shared", "report", "store"] := by
    intro name hname
    by_contra hother
    refine h (.unknownSection hname fun part hpart heq => hother ?_)
    subst heq
    exact List.mem_map_of_mem (f := (·.1)) hpart
  have hshared := mem_fields_of_not_breaksForm h (.head _)
  have hreport := mem_fields_of_not_breaksForm h (.tail _ (.head _))
  have hstore := mem_fields_of_not_breaksForm h (.tail _ (.tail _ (.head _)))
  obtain ⟨logLevel, hlevel⟩ := exists_name_of_not_breaksForm h (.head _) Severity.all Severity.name
    (by simp [Severity.all, Severity.name]) .info
  obtain ⟨sink, hsink⟩ := exists_name_of_not_breaksForm h (.tail _ (.head _)) SinkKind.all SinkKind.name
    (by simp [SinkKind.all, SinkKind.name]) .log
  obtain ⟨backend, hbackend⟩ := exists_name_of_not_breaksForm h (.tail _ (.tail _ (.head _))) Backend.all Backend.name
    (by simp [Backend.all, Backend.name]) .retained
  obtain ⟨serviceName, hservice⟩ :
      ∃ s, (root.sectionAt "shared").value? "service_name" = some (.ofString s) := by
    cases hvalue : (root.sectionAt "shared").value? "service_name" with
    | none => exact absurd (.noServiceName hvalue) h
    | some node =>
      obtain ⟨s, rfl⟩ := exists_ofString_of_not_breaksForm h (.head _) hvalue
      exact ⟨s, rfl⟩
  obtain ⟨path, hpath⟩ : ∃ path : Option String, (root.sectionAt "store").value? "path" = path.map .ofString := by
    cases hvalue : (root.sectionAt "store").value? "path" with
    | none => exact ⟨none, rfl⟩
    | some node =>
      obtain ⟨s, rfl⟩ := exists_ofString_of_not_breaksForm h (.tail _ (.head _)) hvalue
      exact ⟨some s, rfl⟩
  exact ⟨⟨⟨logLevel, serviceName⟩, ⟨sink⟩, ⟨backend, path⟩⟩, hnames, ⟨hshared, hlevel, hservice⟩, ⟨hreport, hsink⟩,
    hstore, hbackend, hpath⟩

/-- What describes a configuration has the form of one. -/
theorem DescribedBy.not_breaksForm (h : DescribedBy root config) : ¬ BreaksForm root := by
  intro hbreaks
  cases hbreaks with
  | unknownSection hname hother =>
    have hname := h.names _ hname
    simp only [sections, List.mem_cons, List.not_mem_nil, or_false, forall_eq_or_imp, forall_eq] at hname hother
    rcases hname with rfl | rfl | rfl
    · exact hother.1 rfl
    · exact hother.2.1 rfl
    · exact hother.2.2 rfl
  | unknownField hplace hname hother =>
    simp only [sections, List.mem_cons, List.not_mem_nil, or_false, Prod.mk.injEq] at hplace
    rcases hplace with ⟨rfl, rfl⟩ | ⟨rfl, rfl⟩ | ⟨rfl, rfl⟩
    · exact hother (h.shared.names _ hname)
    · exact hother (h.report.names _ hname)
    · exact hother (h.store.names _ hname)
  | noShared hnone =>
    have hservice := h.shared.serviceName
    rw [Entries.sectionAt_of_none hnone] at hservice
    cases hservice
  | noServiceName hnone =>
    rw [h.shared.serviceName] at hnone
    cases hnone
  | noString hfield hvalue hother =>
    simp only [strings, List.mem_cons, List.not_mem_nil, or_false, Prod.mk.injEq] at hfield
    rcases hfield with ⟨rfl, rfl⟩ | ⟨rfl, rfl⟩
    · rw [h.shared.serviceName, Option.some.injEq] at hvalue
      exact hother _ hvalue.symm
    · rw [h.store.path, Option.map_eq_some_iff] at hvalue
      obtain ⟨s, -, rfl⟩ := hvalue
      exact hother s rfl
  | noName hfield hvalue hother =>
    simp only [choices, List.mem_cons, List.not_mem_nil, or_false, Prod.mk.injEq] at hfield
    rcases hfield with ⟨rfl, rfl, rfl⟩ | ⟨rfl, rfl, rfl⟩ | ⟨rfl, rfl, rfl⟩
    · have hlevel := h.shared.logLevel
      rw [hvalue, Option.getD_some] at hlevel
      exact hother _ (by cases config.shared.logLevel <;> simp [Severity.name]) hlevel
    · have hsink := h.report.sink
      rw [hvalue, Option.getD_some] at hsink
      exact hother _ (by cases config.report.sink <;> simp [SinkKind.name]) hsink
    · have hbackend := h.store.backend
      rw [hvalue, Option.getD_some] at hbackend
      exact hother _ (by cases config.store.backend <;> simp [Backend.name]) hbackend

/-! ## Values that are not allowed -/

theorem validated_eq (config : FaultConfig) :
    config.validated =
      if config.shared.serviceName = "" then .error .emptyServiceName
      else if config.store.path = some "" then .error .emptyStorePath
      else .ok config := by
  unfold validated validate SharedConfig.validate
  by_cases hservice : config.shared.serviceName = ""
  · rw [if_pos (String.isEmpty_iff.mpr hservice), if_pos hservice]
    rfl
  · rw [if_neg (String.isEmpty_iff.not.mpr hservice), if_neg hservice]
    by_cases hpath : config.store.path = some ""
    · rw [if_pos hpath, if_pos hpath]
      rfl
    · rw [if_neg hpath, if_neg hpath]
      rfl

/-! ## Files -/

/-- The path leads to the text of a document with this root table. -/
def DocumentAt (files : FileTree) (path : String) (root : Entries) : Prop :=
  ∃ bytes text, files.read (.parse path) = .ok bytes ∧ Text.Utf8.decodeChars? bytes = some text ∧
    Toml.document text = .ok root

theorem DocumentAt.unique {files : FileTree} {path : String} {other : Entries} (h : DocumentAt files path other)
    (hroot : DocumentAt files path root) : other = root := by
  obtain ⟨bytes, text, hread, htext, hdocument⟩ := hroot
  obtain ⟨bytes', text', hread', htext', hdocument'⟩ := h
  cases hread.symm.trans hread'
  cases htext.symm.trans htext'
  exact Except.ok.inj (hdocument'.symm.trans hdocument)

/-- The path leads to something that is no configuration. -/
inductive Unparsable (files : FileTree) (path : String) : Prop
  | unreadable {cause : IoError} : files.read (.parse path) = .error cause → cause ≠ .system .noEntry →
    Unparsable files path
  | notText {bytes : List UInt8} : files.read (.parse path) = .ok bytes → Text.Utf8.decodeChars? bytes = none →
    Unparsable files path
  | notToml {bytes : List UInt8} {text : List Char} {cause : DocumentError} : files.read (.parse path) = .ok bytes →
    Text.Utf8.decodeChars? bytes = some text → Toml.document text = .error cause → Unparsable files path
  | malformed {root : Entries} : DocumentAt files path root → BreaksForm root → Unparsable files path

variable {files : FileTree} {path : String}

/-- There is no file, or there is one that is no configuration, or one that describes one. -/
theorem missing_or_unparsable_or_described (files : FileTree) (path : String) :
    files.read (.parse path) = .error (.system .noEntry) ∨ Unparsable files path ∨
      ∃ root config, DocumentAt files path root ∧ DescribedBy root config := by
  cases hread : files.read (.parse path) with
  | error cause =>
    by_cases hmissing : cause = .system .noEntry
    · exact .inl (congrArg _ hmissing)
    · exact .inr (.inl (.unreadable hread hmissing))
  | ok bytes =>
    refine .inr ?_
    cases htext : Text.Utf8.decodeChars? bytes with
    | none => exact .inl (.notText hread htext)
    | some text =>
      cases hdocument : Toml.document text with
      | error cause => exact .inl (.notToml hread htext hdocument)
      | ok root =>
        by_cases hform : BreaksForm root
        · exact .inl (.malformed ⟨bytes, text, hread, htext, hdocument⟩ hform)
        · obtain ⟨config, hconfig⟩ := exists_describedBy hform
          exact .inr ⟨root, config, ⟨bytes, text, hread, htext, hdocument⟩, hconfig⟩

theorem load_of_missing (h : files.read (.parse path) = .error (.system .noEntry)) :
    load files path = .error .fileNotFound := by
  rw [load, readWith, h]
  rfl

theorem load_of_described (hdocument : DocumentAt files path root) (hregular : Regular root)
    (hconfig : DescribedBy root config) : load files path = config.validated := by
  obtain ⟨bytes, text, hread, htext, hdocument⟩ := hdocument
  have hentries : ofEntries text.length root = .ok config :=
    (ofEntries_eq_ok_iff (document_distinct hdocument) hregular).mpr hconfig
  rw [load, readWith, hread]
  dsimp only
  rw [parseBytesWith, htext]
  dsimp only
  rw [parseWith, hdocument]
  dsimp only
  rw [hentries]
  rfl

theorem Unparsable.load (h : Unparsable files path) (hregular : ∀ root, DocumentAt files path root → Regular root) :
    ∃ e, load files path = .error e ∧ e.kind = .parse := by
  cases h with
  | @unreadable cause hread hfound =>
    refine ⟨.unreadable cause, ?_, rfl⟩
    rw [FaultConfig.load, readWith, hread]
    dsimp only
    rw [ConfigError.ofIoError]
    · rfl
    · exact hfound
  | notText hread htext =>
    refine ⟨.notText, ?_, rfl⟩
    rw [FaultConfig.load, readWith, hread]
    dsimp only
    rw [parseBytesWith, htext]
    rfl
  | @notToml bytes text cause hread htext hdocument =>
    refine ⟨.notToml cause, ?_, rfl⟩
    rw [FaultConfig.load, readWith, hread]
    dsimp only
    rw [parseBytesWith, htext]
    dsimp only
    rw [parseWith, hdocument]
    rfl
  | @malformed root hat hform =>
    have hregular := hregular root hat
    obtain ⟨bytes, text, hread, htext, hdocument⟩ := hat
    rw [FaultConfig.load, readWith, hread]
    dsimp only
    rw [parseBytesWith, htext]
    dsimp only
    rw [parseWith, hdocument]
    dsimp only
    cases hentries : ofEntries text.length root with
    | error violation => exact ⟨_, rfl, rfl⟩
    | ok config =>
      have hconfig := (ofEntries_eq_ok_iff (document_distinct hdocument) hregular).mp hentries
      exact absurd hform hconfig.not_breaksForm

/-! ## Verdicts -/

theorem DescribedBy.serviceName_eq_iff (h : DescribedBy root config) {s : String} :
    config.shared.serviceName = s ↔ (root.sectionAt "shared").value? "service_name" = some (.ofString s) := by
  rw [h.shared.serviceName, Option.some.injEq, Node.ofString_inj]

theorem DescribedBy.path_eq_iff (h : DescribedBy root config) {s : String} :
    config.store.path = some s ↔ (root.sectionAt "store").value? "path" = some (.ofString s) := by
  rw [h.store.path, Option.map_eq_some_iff]
  simp only [Node.ofString_inj, exists_eq_right]

/-- What an error says of the file. -/
theorem load_error_cases (hregular : ∀ root, DocumentAt files path root → Regular root) {e : ConfigError}
    (h : load files path = .error e) :
    (e = .fileNotFound ∧ files.read (.parse path) = .error (.system .noEntry)) ∨
      (e.kind = .parse ∧ Unparsable files path) ∨
      ∃ root config, DocumentAt files path root ∧ DescribedBy root config ∧
        (e = .emptyServiceName ∧ config.shared.serviceName = "" ∨
          e = .emptyStorePath ∧ config.store.path = some "") := by
  rcases missing_or_unparsable_or_described files path with hmissing | hunparsable | ⟨root, config, hat, hconfig⟩
  · rw [load_of_missing hmissing] at h
    cases h
    exact .inl ⟨rfl, hmissing⟩
  · obtain ⟨_, hload, hkind⟩ := hunparsable.load hregular
    rw [hload] at h
    cases h
    exact .inr (.inl ⟨hkind, hunparsable⟩)
  · refine .inr (.inr ⟨root, config, hat, hconfig, ?_⟩)
    rw [load_of_described hat (hregular root hat) hconfig, validated_eq] at h
    split at h
    · next hservice =>
      cases h
      exact .inl ⟨rfl, hservice⟩
    · split at h
      · next hpath =>
        cases h
        exact .inr ⟨rfl, hpath⟩
      · cases h

/-- What a configuration that is loaded says of the file. -/
theorem load_eq_ok_iff (hregular : ∀ root, DocumentAt files path root → Regular root) :
    load files path = .ok config ↔
      ∃ root, DocumentAt files path root ∧ DescribedBy root config ∧ config.shared.serviceName ≠ "" ∧
        config.store.path ≠ some "" := by
  constructor
  · intro hload
    rcases missing_or_unparsable_or_described files path with hmissing | hunparsable | ⟨root, other, hat, hother⟩
    · rw [load_of_missing hmissing] at hload
      cases hload
    · obtain ⟨_, hfailed, -⟩ := hunparsable.load hregular
      rw [hfailed] at hload
      cases hload
    · rw [load_of_described hat (hregular root hat) hother, validated_eq] at hload
      split at hload
      · cases hload
      · next hservice =>
        split at hload
        · cases hload
        · next hpath =>
          cases hload
          exact ⟨root, hat, hother, hservice, hpath⟩
  · rintro ⟨root, hat, hconfig, hservice, hpath⟩
    rw [load_of_described hat (hregular root hat) hconfig, validated_eq, if_neg hservice, if_neg hpath]

/-- **What loading a configuration comes to is decided by the document alone.** -/
theorem load_verdicts {files : FileTree} {path : String}
    (hregular : ∀ root, DocumentAt files path root → Regular root) :
    ((∃ e, load files path = .error e ∧ e.kind = .fileNotFound) ↔
        files.read (.parse path) = .error (.system .noEntry)) ∧
      ((∃ e, load files path = .error e ∧ e.kind = .parse) ↔ Unparsable files path) ∧
      ((∃ e, load files path = .error e ∧ e.kind = .validation) ↔
        ∃ root, DocumentAt files path root ∧ ¬ BreaksForm root ∧
          ((root.sectionAt "shared").value? "service_name" = some (.ofString "") ∨
            (root.sectionAt "store").value? "path" = some (.ofString ""))) ∧
      (load files path = .error .emptyServiceName ↔
        ∃ root, DocumentAt files path root ∧ ¬ BreaksForm root ∧
          (root.sectionAt "shared").value? "service_name" = some (.ofString "")) ∧
      ∀ config, load files path = .ok config ↔
        ∃ root, DocumentAt files path root ∧ DescribedBy root config ∧ config.shared.serviceName ≠ "" ∧
          config.store.path ≠ some "" := by
  refine ⟨⟨?_, ?_⟩, ⟨?_, ?_⟩, ⟨?_, ?_⟩, ⟨?_, ?_⟩, fun _ => load_eq_ok_iff hregular⟩
  · rintro ⟨e, hload, hkind⟩
    rcases load_error_cases hregular hload with ⟨-, hmissing⟩ | ⟨hparse, -⟩ | ⟨_, _, -, -, ⟨rfl, -⟩ | ⟨rfl, -⟩⟩
    · exact hmissing
    · rw [hparse] at hkind
      cases hkind
    · cases hkind
    · cases hkind
  · exact fun hmissing => ⟨_, load_of_missing hmissing, rfl⟩
  · rintro ⟨e, hload, hkind⟩
    rcases load_error_cases hregular hload with ⟨rfl, -⟩ | ⟨-, hunparsable⟩ | ⟨_, _, -, -, ⟨rfl, -⟩ | ⟨rfl, -⟩⟩
    · cases hkind
    · exact hunparsable
    · cases hkind
    · cases hkind
  · exact fun hunparsable => hunparsable.load hregular
  · rintro ⟨e, hload, hkind⟩
    rcases load_error_cases hregular hload with ⟨rfl, -⟩ | ⟨hparse, -⟩ | ⟨root, config, hat, hconfig, hempty⟩
    · cases hkind
    · rw [hparse] at hkind
      cases hkind
    · refine ⟨root, hat, hconfig.not_breaksForm, ?_⟩
      exact hempty.imp (fun h => hconfig.serviceName_eq_iff.mp h.2) fun h => hconfig.path_eq_iff.mp h.2
  · rintro ⟨root, hat, hform, hempty⟩
    obtain ⟨config, hconfig⟩ := exists_describedBy hform
    rw [load_of_described hat (hregular root hat) hconfig, validated_eq]
    by_cases hservice : config.shared.serviceName = ""
    · rw [if_pos hservice]
      exact ⟨_, rfl, rfl⟩
    · have hpath := hempty.resolve_left fun h => hservice (hconfig.serviceName_eq_iff.mpr h)
      rw [if_neg hservice, if_pos (hconfig.path_eq_iff.mpr hpath)]
      exact ⟨_, rfl, rfl⟩
  · intro hload
    rcases load_error_cases hregular hload with ⟨he, -⟩ | ⟨hparse, -⟩ | ⟨root, config, hat, hconfig, hempty⟩
    · cases he
    · cases hparse
    · obtain ⟨-, hservice⟩ := hempty.resolve_right nofun
      exact ⟨root, hat, hconfig.not_breaksForm, hconfig.serviceName_eq_iff.mp hservice⟩
  · rintro ⟨root, hat, hform, hservice⟩
    obtain ⟨config, hconfig⟩ := exists_describedBy hform
    rw [load_of_described hat (hregular root hat) hconfig, validated_eq,
      if_pos (hconfig.serviceName_eq_iff.mpr hservice)]

/-- Whether the document at a path is regular can be computed. -/
theorem regular_of_documentAt
    (h : (((files.read (.parse path)).toOption.bind Text.Utf8.decodeChars?).bind fun text =>
      (Toml.document text).toOption).all (fun root => decide (Regular root)) = true) :
    ∀ root, DocumentAt files path root → Regular root := by
  rintro root ⟨bytes, text, hread, htext, hdocument⟩
  simp only [hread, htext, hdocument, Except.toOption, Option.bind_some, Option.all_some, decide_eq_true_eq] at h
  exact h

/-- Of two values that are not allowed the service name is reported; with other values the same file is loaded, with
the defaults for what it does not say. -/
theorem load_verdicts_of_two_documents :
    let withDocument (document : String) : FileTree :=
      (FileTree.fresh ["work"]).withFile (.parse "fault.toml") (Text.Utf8.encode document)
    let refused := withDocument "[store]\npath = ''\n[shared]\nservice_name = ''"
    let accepted := withDocument "shared.service_name = 'x'\nreport.sink = 'none'"
    (∃ root, DocumentAt refused "fault.toml" root ∧ ¬ BreaksForm root) ∧ ¬ Unparsable refused "fault.toml" ∧
      load refused "fault.toml" = .error .emptyServiceName ∧
      ∃ root, DocumentAt accepted "fault.toml" root ∧
        DescribedBy root ⟨⟨.info, "x"⟩, ⟨.silent⟩, ⟨.retained, none⟩⟩ := by
  intro withDocument refused accepted
  have hrefused : ∀ root, DocumentAt refused "fault.toml" root → Regular root :=
    regular_of_documentAt (by decide +kernel)
  have haccepted : ∀ root, DocumentAt accepted "fault.toml" root → Regular root :=
    regular_of_documentAt (by decide +kernel)
  have hload : load refused "fault.toml" = .error .emptyServiceName := by decide +kernel
  obtain ⟨-, hparse, -, hempty, -⟩ := load_verdicts hrefused
  obtain ⟨-, -, -, -, hok⟩ := load_verdicts haccepted
  obtain ⟨root, hat, hform, -⟩ := hempty.mp hload
  have hkind : ¬ Unparsable refused "fault.toml" := by
    intro hunparsable
    obtain ⟨e, he, hkind⟩ := hparse.mpr hunparsable
    cases hload.symm.trans he
    cases hkind
  have hloaded : load accepted "fault.toml" = .ok ⟨⟨.info, "x"⟩, ⟨.silent⟩, ⟨.retained, none⟩⟩ :=
    Outcome.eq_ok_of_toOption (by decide +kernel)
  obtain ⟨other, hother, hdescribed, -⟩ := (hok _).mp hloaded
  exact ⟨⟨root, hat, hform⟩, hkind, hload, other, hother, hdescribed⟩

/-! ## Documents that differ in the log level -/

/-- A root table that says the same as another one, except that it names this log level. -/
structure OtherLevel (root other : Entries) (level : Severity) : Prop where
  names : ∀ name ∈ other.names, name ∈ root.names
  fields : ∀ place field, (place, field) ≠ ("shared", "log_level") →
    (other.sectionAt place).value? field = (root.sectionAt place).value? field
  level : (other.sectionAt "shared").value? "log_level" = some (.ofString level.name)

/-- A configuration with another log level. -/
def withLevel (config : FaultConfig) (level : Severity) : FaultConfig :=
  { config with shared := { config.shared with logLevel := level } }

theorem OtherLevel.mem_names {other : Entries} {level : Severity} (h : OtherLevel root other level)
    {place field : String} (hne : (place, field) ≠ ("shared", "log_level"))
    (hfield : field ∈ (other.sectionAt place).names) : field ∈ (root.sectionAt place).names := by
  by_contra hnone
  rw [← Entries.value?_eq_none_iff, ← h.fields place field hne, Entries.value?_eq_none_iff] at hnone
  exact hnone hfield

theorem DescribedBy.otherLevel {other : Entries} {level : Severity} (h : DescribedBy root config)
    (hother : OtherLevel root other level) : DescribedBy other (config.withLevel level) := by
  have hfield : ∀ place ≠ "shared", ∀ field,
      (other.sectionAt place).value? field = (root.sectionAt place).value? field :=
    fun place hplace field => hother.fields place field fun heq => hplace (congrArg Prod.fst heq)
  have hnames : ∀ place ≠ "shared", ∀ field ∈ (other.sectionAt place).names, field ∈ (root.sectionAt place).names :=
    fun place hplace field => hother.mem_names fun heq => hplace (congrArg Prod.fst heq)
  refine ⟨fun name hname => h.names name (hother.names name hname), ⟨?_, ?_, ?_⟩, ⟨?_, ?_⟩, ⟨?_, ?_, ?_⟩⟩
  · intro name hname
    by_cases hlevel : name = "log_level"
    · simp [hlevel]
    · exact h.shared.names name (hother.mem_names (by simp [hlevel]) hname)
  · rw [hother.level, Option.getD_some]
    rfl
  · rw [hother.fields "shared" "service_name" (by simp)]
    exact h.shared.serviceName
  · exact fun name hname => h.report.names name (hnames "report" (by simp) name hname)
  · rw [hfield "report" (by simp)]
    exact h.report.sink
  · exact fun name hname => h.store.names name (hnames "store" (by simp) name hname)
  · rw [hfield "store" (by simp)]
    exact h.store.backend
  · rw [hfield "store" (by simp)]
    exact h.store.path

/-- A file that names another log level is loaded as the same configuration with that level. -/
theorem load_otherLevel {root other : Entries} {files files' : FileTree} {level : Severity}
    (hat : DocumentAt files path root) (hregular : Regular root) (hload : load files path = .ok config)
    (hat' : DocumentAt files' path other) (hregular' : Regular other) (hother : OtherLevel root other level) :
    load files' path = .ok (config.withLevel level) := by
  obtain ⟨root', hroot, hconfig, hservice, hpath⟩ := (load_eq_ok_iff fun _ h => h.unique hat ▸ hregular).mp hload
  rw [hroot.unique hat] at hconfig
  exact (load_eq_ok_iff fun _ h => h.unique hat' ▸ hregular').mpr
    ⟨other, hat', hconfig.otherLevel hother, hservice, hpath⟩

end PostMortem.FaultConfig
