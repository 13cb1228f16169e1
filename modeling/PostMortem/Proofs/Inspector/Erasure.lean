import PostMortem.Inspector.Inspect
import PostMortem.Proofs.Store.Opening
import PostMortem.Proofs.Writer

/-! # No record is erased before it has been shown

The record file is the only copy of a record. An inspection erases it once the whole report has been written and
flushed, and not on any other way: not when the file cannot be opened, when the writer fails at some byte of the report
or in the flush, when there is no record, or when nobody asked for it. So a row of inspections with writers that may
fail keeps the record until one of them has shown it.

* `Careful`: what one inspection does, for every writer and all files.
* `inspectEach`, `filesLeft`: inspections one after the other.
* `careful_inspectEach`: a whole row of them.
-/
set_option autoImplicit false

namespace PostMortem

/-- There is room for some bytes, and the flush does not fail. -/
def Writer.Suffices (w : Writer) (bytes : List UInt8) : Prop := w.Accepts bytes ∧ w.flushFailure = none

namespace Inspector
open FileTree MappedRecord

variable {path : String} {clear : Bool} {w : Writer} {t : FileTree} {m : MappedRecord}

/-! ## Reports -/

/-- The report of a record, or the notice that there is none, in bytes. -/
def reportBytes (record : Option FaultRecord) : List UInt8 := Text.Utf8.encode (Report.ofRecord? record).text

theorem reportBytes_none : reportBytes none = Text.Utf8.encode "No fault record.\r\n" := rfl

theorem writeReport_eq (record : Option FaultRecord) (w : Writer) :
    writeReport record w =
      (if w.Accepts (reportBytes record) then w.flush else .error w.full, w.after (reportBytes record)) := by
  have hbytes : (Report.ofRecord? record).pieces.flatMap Text.Utf8.encode = reportBytes record := by
    rw [reportBytes, Report.text, Text.Utf8.encode_join]
  rw [writeReport, Writer.writeAll_eq, hbytes, Writer.outcome]
  by_cases hroom : w.Accepts (reportBytes record)
  · rw [if_pos hroom, if_pos hroom]
    rfl
  · rw [if_neg hroom, if_neg hroom]

/-! ## One inspection -/

theorem openExisting_of_fst {result : Except StoreError MappedRecord} (h : (openExisting path t).1 = result) :
    openExisting path t = (result, t) := Prod.ext h (openExisting_snd path t)

theorem clear_of_opened (hopen : (openExisting path t).1 = .ok m) : m.clear t = t.setContent m.node Image.blank := by
  obtain ⟨-, -, -, hsize⟩ := openExisting_eq_ok_iff.mp (openExisting_of_fst hopen)
  rw [MappedRecord.clear, Image.clear_eq_blank hsize]

theorem inspect_refused {e : StoreError} (hopen : (openExisting path t).1 = .error e) (clear : Bool) (w : Writer) :
    (inspect path clear w t).result = .error e ∧ (inspect path clear w t).writer = w ∧
      (inspect path clear w t).files = t := by
  rw [inspect, openExisting_of_fst hopen]
  exact ⟨rfl, rfl, rfl⟩

theorem inspect_failed (hopen : (openExisting path t).1 = .ok m) {e : IoError}
    (hwrite : (writeReport (m.load t) w).1 = .error e) (clear : Bool) :
    (inspect path clear w t).result = .error (.io e) ∧
      (inspect path clear w t).writer = w.after (reportBytes (m.load t)) ∧ (inspect path clear w t).files = t := by
  rw [writeReport_eq] at hwrite
  rw [inspect, openExisting_of_fst hopen]
  dsimp only at hwrite ⊢
  rw [writeReport_eq, hwrite]
  exact ⟨rfl, rfl, rfl⟩

theorem inspect_cutOff (hopen : (openExisting path t).1 = .ok m) (hroom : ¬ w.Accepts (reportBytes (m.load t)))
    (clear : Bool) :
    (inspect path clear w t).result = .error (.io w.full) ∧
      (inspect path clear w t).writer = w.after (reportBytes (m.load t)) ∧ (inspect path clear w t).files = t := by
  have hwrite : (writeReport (m.load t) w).1 = .error w.full := by rw [writeReport_eq, if_neg hroom]
  exact inspect_failed hopen hwrite clear

theorem inspect_unflushed (hopen : (openExisting path t).1 = .ok m) (hroom : w.Accepts (reportBytes (m.load t)))
    {e : IoError} (hflush : w.flushFailure = some e) (clear : Bool) :
    (inspect path clear w t).result = .error (.io e) ∧
      (inspect path clear w t).writer = w.after (reportBytes (m.load t)) ∧ (inspect path clear w t).files = t := by
  have hwrite : (writeReport (m.load t) w).1 = .error e := by rw [writeReport_eq, if_pos hroom, Writer.flush, hflush]
  exact inspect_failed hopen hwrite clear

theorem inspect_shown (hopen : (openExisting path t).1 = .ok m) (hwriter : w.Suffices (reportBytes (m.load t)))
    (clear : Bool) :
    (inspect path clear w t).result = .ok () ∧
      (inspect path clear w t).writer.written = w.written ++ reportBytes (m.load t) ∧
      (inspect path clear w t).files = if clear && (m.load t).isSome then m.clear t else t := by
  have hwrite : writeReport (m.load t) w = (.ok (), w.after (reportBytes (m.load t))) := by
    rw [writeReport_eq, if_pos hwriter.1, Writer.flush, hwriter.2]
  have hwritten : (w.after (reportBytes (m.load t))).written = w.written ++ reportBytes (m.load t) := by
    rw [Writer.after, Writer.taken_of_accepts hwriter.1]
  rw [inspect, openExisting_of_fst hopen]
  dsimp only
  rw [hwrite]
  dsimp only
  split
  · exact ⟨rfl, hwritten, rfl⟩
  · exact ⟨rfl, hwritten, rfl⟩

theorem inspect_files_cases (path : String) (clear : Bool) (w : Writer) (t : FileTree) :
    (inspect path clear w t).files = t ∨
      ∃ m record, (openExisting path t).1 = .ok m ∧ clear = true ∧ m.load t = some record ∧
        w.Suffices (reportBytes (m.load t)) ∧ (inspect path clear w t).files = m.clear t := by
  cases hopen : (openExisting path t).1 with
  | error e => exact .inl (inspect_refused hopen clear w).2.2
  | ok m =>
    by_cases hroom : w.Accepts (reportBytes (m.load t))
    · cases hflush : w.flushFailure with
      | some e => exact .inl (inspect_unflushed hopen hroom hflush clear).2.2
      | none =>
        obtain ⟨-, -, hfiles⟩ := inspect_shown hopen ⟨hroom, hflush⟩ clear
        rw [hfiles]
        split
        · rename_i herase
          obtain ⟨hclear, hsome⟩ := Bool.and_eq_true_iff.mp herase
          obtain ⟨record, hrecord⟩ := Option.isSome_iff_exists.mp hsome
          exact .inr ⟨m, record, rfl, hclear, hrecord, ⟨hroom, hflush⟩, rfl⟩
        · exact .inl rfl
    · exact .inl (inspect_cutOff hopen hroom clear).2.2

/-- What an inspection of the file at a path does, with a writer and beside some files. -/
structure Careful (path : String) (clear : Bool) (w : Writer) (t : FileTree) (i : Inspection) : Prop where
  refused : ∀ e, (openExisting path t).1 = .error e → i.result = .error e ∧ i.writer = w ∧ i.files = t
  /-- A writer without enough room gets the beginning of the report. -/
  cutOff : ∀ m, (openExisting path t).1 = .ok m → ¬ w.Accepts (reportBytes (m.load t)) →
    i.result = .error (.io w.full) ∧
      (∃ shown, shown <+: reportBytes (m.load t) ∧ i.writer.written = w.written ++ shown) ∧ i.files = t
  unflushed : ∀ m e, (openExisting path t).1 = .ok m → w.Accepts (reportBytes (m.load t)) →
    w.flushFailure = some e →
      i.result = .error (.io e) ∧ i.writer.written = w.written ++ reportBytes (m.load t) ∧ i.files = t
  shown : ∀ m, (openExisting path t).1 = .ok m → w.Suffices (reportBytes (m.load t)) →
    i.result = .ok () ∧ i.writer.written = w.written ++ reportBytes (m.load t) ∧
      i.files = if clear && (m.load t).isSome then t.setContent m.node Image.blank else t
  /-- Only a record that has been shown is erased. -/
  erased : i.files ≠ t → clear = true ∧ i.result = .ok () ∧ ∃ node record, t.fileAt? path = some node ∧
    Image.decode? (t.content node) = some record ∧ w.Suffices (reportBytes (some record)) ∧
      i.writer.written = w.written ++ reportBytes (some record) ∧ i.files = t.setContent node Image.blank
  others : ∀ node, t.fileAt? path ≠ some node → i.files.content node = t.content node
  names : i.files.home = t.home ∧ i.files.parents = t.parents ∧ i.files.entries = t.entries

theorem careful_inspect (path : String) (clear : Bool) (w : Writer) (t : FileTree) :
    Careful path clear w t (inspect path clear w t) where
  refused e hopen := inspect_refused hopen clear w
  cutOff m hopen hroom := by
    obtain ⟨hresult, hwriter, hfiles⟩ := inspect_cutOff hopen hroom clear
    exact ⟨hresult, ⟨_, w.taken_prefix _, congrArg Writer.written hwriter⟩, hfiles⟩
  unflushed m e hopen hroom hflush := by
    obtain ⟨hresult, hwriter, hfiles⟩ := inspect_unflushed hopen hroom hflush clear
    rw [hwriter, Writer.after, Writer.taken_of_accepts hroom]
    exact ⟨hresult, rfl, hfiles⟩
  shown m hopen hwriter := by
    rw [← clear_of_opened hopen]
    exact inspect_shown hopen hwriter clear
  erased hchanged := by
    rcases inspect_files_cases path clear w t with hsame | ⟨m, record, hopen, hclear, hrecord, hwriter, hfiles⟩
    · exact absurd hsame hchanged
    · obtain ⟨hresult, hwritten, -⟩ := inspect_shown hopen hwriter clear
      obtain ⟨-, -, hfile, -⟩ := openExisting_eq_ok_iff.mp (openExisting_of_fst hopen)
      rw [hrecord] at hwriter hwritten
      rw [clear_of_opened hopen] at hfiles
      exact ⟨hclear, hresult, m.node, record, hfile, hrecord, hwriter, hwritten, hfiles⟩
  others node hnode := by
    rcases inspect_files_cases path clear w t with hsame | ⟨m, record, hopen, -, -, -, hfiles⟩
    · rw [hsame]
    · obtain ⟨-, -, hfile, -⟩ := openExisting_eq_ok_iff.mp (openExisting_of_fst hopen)
      have hne : node ≠ m.node := fun heq => hnode (heq ▸ hfile)
      rw [hfiles, content_clear, if_neg hne]
  names := by
    rcases inspect_files_cases path clear w t with hsame | ⟨m, record, -, -, -, -, hfiles⟩
    · rw [hsame]
      exact ⟨rfl, rfl, rfl⟩
    · rw [hfiles]
      exact ⟨rfl, rfl, rfl⟩

/-! ## Inspections one after the other -/

/-- Each inspection has a writer of its own. -/
def inspectEach (path : String) (clear : Bool) : List Writer → FileTree → List Inspection
  | [], _ => []
  | w :: rest, files =>
    let first := inspect path clear w files
    first :: inspectEach path clear rest first.files

def filesLeft (path : String) (clear : Bool) (t : FileTree) (ws : List Writer) : FileTree :=
  ws.foldl (fun t w => (inspect path clear w t).files) t

theorem inspectTimes_eq_inspectEach (path : String) (clear : Bool) (w : Writer) (n : Nat) (t : FileTree) :
    inspectTimes path clear w n t = inspectEach path clear (List.replicate n w) t := by
  induction n generalizing t with
  | zero => rfl
  | succ n ih => rw [inspectTimes, List.replicate_succ, inspectEach, ih]

theorem getElem?_inspectEach (path : String) (clear : Bool) (ws : List Writer) (t : FileTree) (k : Nat) :
    (inspectEach path clear ws t)[k]? =
      ws[k]?.map fun w => inspect path clear w (filesLeft path clear t (ws.take k)) := by
  induction ws generalizing t k with
  | nil => rfl
  | cons w rest ih =>
    cases k with
    | zero => rfl
    | succ k => exact ih _ k

/-- A record file at a path, and what it holds. -/
structure Holds (path : String) (node : Nat) (record : Option FaultRecord) (t : FileTree) : Prop where
  named : t.fileAt? path = some node
  sized : (t.content node).length = Image.size
  decoded : Image.decode? (t.content node) = record

namespace Holds

variable {node : Nat} {record : Option FaultRecord}

theorem opened (h : Holds path node record t) : (openExisting path t).1 = .ok ⟨path, node⟩ := by
  have hopened : openExisting path t = (.ok ⟨path, node⟩, t) :=
    openExisting_eq_ok_iff.mpr ⟨rfl, rfl, h.named, h.sized⟩
  rw [hopened]

theorem blank (h : Holds path node record t) : Holds path node none (t.setContent node Image.blank) := by
  refine ⟨fileAt?_setContent h.named node _, ?_, ?_⟩
  · rw [content_setContent_self, Image.blank, List.length_replicate]
  · rw [content_setContent_self]
    decide

theorem shown (h : Holds path node record t) (hwriter : w.Suffices (reportBytes record)) (clear : Bool) :
    (inspect path clear w t).result = .ok () ∧
      (inspect path clear w t).writer.written = w.written ++ reportBytes record ∧
      (inspect path clear w t).files = if clear && record.isSome then t.setContent node Image.blank else t := by
  have hload : MappedRecord.load ⟨path, node⟩ t = record := h.decoded
  rw [← hload] at hwriter ⊢
  exact (careful_inspect path clear w t).shown _ h.opened hwriter

theorem erased (h : Holds path node record t) (hchanged : (inspect path clear w t).files ≠ t) :
    clear = true ∧ (inspect path clear w t).files = t.setContent node Image.blank ∧
      ∃ shown, record = some shown ∧ w.Suffices (reportBytes record) := by
  obtain ⟨hclear, -, other, shown, hfile, hdecoded, hwriter, -, hfiles⟩ :=
    (careful_inspect path clear w t).erased hchanged
  rw [h.named] at hfile
  cases hfile
  rw [h.decoded] at hdecoded
  subst hdecoded
  exact ⟨hclear, hfiles, shown, rfl, hwriter⟩

theorem filesLeft_none (h : Holds path node none t) (clear : Bool) (ws : List Writer) :
    filesLeft path clear t ws = t := by
  induction ws with
  | nil => rfl
  | cons w rest ih =>
    have hsame : (inspect path clear w t).files = t := by
      by_contra hchanged
      obtain ⟨-, -, shown, hshown, -⟩ := h.erased hchanged
      cases hshown
    rw [filesLeft, List.foldl_cons, hsame]
    exact ih

theorem filesLeft_cases (h : Holds path node record t) (clear : Bool) (ws : List Writer) :
    filesLeft path clear t ws = t ∨
      filesLeft path clear t ws = t.setContent node Image.blank ∧ clear = true ∧
        ∃ k w, ws[k]? = some w ∧ filesLeft path clear t (ws.take k) = t ∧ w.Suffices (reportBytes record) := by
  -- the files stay as they are up to the first inspection that erases the record, and from there on
  induction ws with
  | nil => exact .inl rfl
  | cons w rest ih =>
    by_cases hsame : (inspect path clear w t).files = t
    · rw [filesLeft, List.foldl_cons, hsame, ← filesLeft]
      refine ih.imp_right ?_
      rintro ⟨hleft, hclear, k, w', hw', hbefore, hwriter⟩
      refine ⟨hleft, hclear, k + 1, w', hw', ?_, hwriter⟩
      rw [List.take_succ_cons, filesLeft, List.foldl_cons, hsame, ← filesLeft, hbefore]
    · obtain ⟨hclear, hfiles, -, -, hwriter⟩ := h.erased hsame
      rw [filesLeft, List.foldl_cons, hfiles, ← filesLeft, h.blank.filesLeft_none]
      exact .inr ⟨rfl, hclear, 0, w, rfl, rfl, hwriter⟩

end Holds

/-! ## Rows of inspections -/

theorem Holds.shown_each {node : Nat} {record : FaultRecord} (h : Holds path node (some record) t) {ws : List Writer}
    (hwriters : ∀ w ∈ ws, w.Suffices (reportBytes (some record)) ∧ w.Suffices (reportBytes none)) {k : Nat}
    (hw : ws[k]? = some w) (clear : Bool) :
    let i := inspect path clear w (filesLeft path clear t (ws.take k))
    i.result = .ok () ∧
      i.writer.written = w.written ++ reportBytes (if clear = true ∧ 0 < k then none else some record) ∧
      i.files = if clear = true then t.setContent node Image.blank else t := by
  have hmem : w ∈ ws := List.mem_of_getElem? hw
  have hfirst := h.shown (hwriters w hmem).1 clear
  cases clear with
  | false =>
    have hkept : filesLeft path false t (ws.take k) = t := by
      rcases h.filesLeft_cases false (ws.take k) with hkept | ⟨-, hclear, -⟩
      · exact hkept
      · cases hclear
    rw [hkept]
    simpa using hfirst
  | true =>
    cases k with
    | zero => simpa [filesLeft] using hfirst
    | succ k =>
      have hblank : filesLeft path true t (ws.take (k + 1)) = t.setContent node Image.blank := by
        cases ws with
        | nil => cases hmem
        | cons first rest =>
          obtain ⟨-, -, hcleared⟩ := h.shown (hwriters first List.mem_cons_self).1 true
          rw [List.take_succ_cons, filesLeft, List.foldl_cons, hcleared, ← filesLeft]
          exact h.blank.filesLeft_none true _
      rw [hblank]
      simpa using h.blank.shown (hwriters w hmem).2 true

/-- **Of inspections, each with a writer that may fail, every one is careful. If they leave the files changed, one has
shown the record. If no writer fails, all show the record, or after a clear all but the first the notice.** -/
theorem careful_inspectEach (path : String) (clear : Bool) (ws : List Writer) (t : FileTree) :
    (∀ (k : Nat) (w : Writer), ws[k]? = some w → ∃ i, (inspectEach path clear ws t)[k]? = some i ∧
      Careful path clear w (filesLeft path clear t (ws.take k)) i) ∧
    ∀ (node : Nat) (record : FaultRecord), Holds path node (some record) t →
      (filesLeft path clear t ws ≠ t →
        clear = true ∧ filesLeft path clear t ws = t.setContent node Image.blank ∧
          ∃ (k : Nat) (w : Writer) (i : Inspection), ws[k]? = some w ∧ (inspectEach path clear ws t)[k]? = some i ∧
            i.result = .ok () ∧ i.writer.written = w.written ++ reportBytes (some record) ∧ w.flushFailure = none) ∧
      ((∀ w ∈ ws, w.Suffices (reportBytes (some record)) ∧ w.Suffices (reportBytes none)) →
        ∀ (k : Nat) (w : Writer), ws[k]? = some w → ∃ i, (inspectEach path clear ws t)[k]? = some i ∧
          i.result = .ok () ∧
          i.writer.written = w.written ++
            (if clear = true ∧ 0 < k then Text.Utf8.encode "No fault record.\r\n" else reportBytes (some record)) ∧
          i.files = if clear = true then t.setContent node Image.blank else t) := by
  have hnth : ∀ (k : Nat) (w : Writer), ws[k]? = some w →
      (inspectEach path clear ws t)[k]? = some (inspect path clear w (filesLeft path clear t (ws.take k))) := by
    intro k w hw
    rw [getElem?_inspectEach, hw, Option.map_some]
  refine ⟨fun k w hw => ⟨_, hnth k w hw, careful_inspect path clear w _⟩, ?_⟩
  intro node record hholds
  constructor
  · intro hchanged
    rcases hholds.filesLeft_cases clear ws with hsame | ⟨hleft, hclear, k, w, hw, hbefore, hwriter⟩
    · exact absurd hsame hchanged
    · have hi := hnth k w hw
      rw [hbefore] at hi
      obtain ⟨hresult, hwritten, -⟩ := hholds.shown hwriter clear
      exact ⟨hclear, hleft, k, w, _, hw, hi, hresult, hwritten, hwriter.2⟩
  · intro hwriters k w hw
    refine ⟨_, hnth k w hw, ?_⟩
    have hshown := hholds.shown_each hwriters hw clear
    rwa [apply_ite reportBytes, reportBytes_none] at hshown

/-- The report is cut off after five bytes, then its flush fails, then it is shown, and then the record is gone. -/
theorem careful_inspectEach_of_four :
    let record : FaultRecord := ⟨.sdkError, 5, 6, ⟨7⟩⟩
    let t := (fresh ["work"]).withFile (.parse "record.bin") (Image.save Image.blank record)
    let ws : List Writer := [{ room := some 5 }, { flushFailure := some (.custom "flush failed") }, {}, {}]
    Holds "record.bin" 2 (some record) t ∧ filesLeft "record.bin" true t (ws.take 2) = t ∧
      filesLeft "record.bin" true t ws ≠ t ∧
      (∃ (k : Nat) (w : Writer) (i : Inspection), ws[k]? = some w ∧ (inspectEach "record.bin" true ws t)[k]? = some i ∧
        i.result = .ok () ∧ i.writer.written = w.written ++ reportBytes (some record) ∧ w.flushFailure = none) ∧
      ∃ i, (inspectEach "record.bin" true [{}, {}] t)[1]? = some i ∧
        i.writer.written = Text.Utf8.encode "No fault record.\r\n" := by
  intro record t ws
  have hholds : Holds "record.bin" 2 (some record) t := by
    refine ⟨?_, ?_, ?_⟩ <;> decide +kernel
  have hkept : filesLeft "record.bin" true t (ws.take 2) = t := by decide +kernel
  have hchanged : filesLeft "record.bin" true t ws ≠ t := by decide +kernel
  obtain ⟨-, hrow⟩ := careful_inspectEach "record.bin" true ws t
  obtain ⟨-, -, hshown⟩ := (hrow 2 record hholds).1 hchanged
  have hgood : ∀ w ∈ [({} : Writer), {}], w.Suffices (reportBytes (some record)) ∧ w.Suffices (reportBytes none) := by
    intro w hw
    have hw : w = {} := by simpa using hw
    subst hw
    exact ⟨⟨Writer.accepts_of_room_none rfl _, rfl⟩, Writer.accepts_of_room_none rfl _, rfl⟩
  obtain ⟨-, hrow⟩ := careful_inspectEach "record.bin" true [{}, {}] t
  obtain ⟨i, hi, -, hwritten, -⟩ := (hrow 2 record hholds).2 hgood 1 {} rfl
  exact ⟨hholds, hkept, hchanged, hshown, i, hi, by simpa using hwritten⟩

end Inspector
end PostMortem
