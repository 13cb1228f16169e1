import PostMortem.Proofs.Writer
import PostMortem.Report.Layout

/-! # Reports on a writer that fills up

A report is written line by line and a line piece by piece, by one procedure that calls others, and each of them ends at
the first failure. Whatever takes the pieces, that comes to the same as to hand them over in a row up to the first
failure. So on a writer that takes a number of bytes and then fails, the report is cut off there, wherever in a line or
in a letter that may be; the failure is what the procedure ends with, and no further piece is handed over.

* `Writing`: a procedure that writes, and ends at the first failure.
* `Report.writeHeader`, `Report.writeFault`, `Report.writeRecord`: the procedures.
* `Writer.Asked`: what a writer is asked to take.
* `Report.CutOff`: what a procedure does on a writer that fills up.
-/
set_option autoImplicit false

namespace PostMortem

/-- A procedure that writes, and ends at the first failure. -/
abbrev Writing (σ : Type) := ExceptT IoError (StateM σ)

namespace Writing

variable {σ : Type}

def on (p : Writing σ Unit) (s : σ) : Except IoError Unit × σ := (ExceptT.run p).run s

theorem on_bind (p : Writing σ Unit) (next : Unit → Writing σ Unit) (s : σ) :
    on (p >>= next) s = match p.on s with
      | (.ok (), s) => on (next ()) s
      | (.error e, s) => (.error e, s) := by
  show (ExceptT.bindCont next (p.on s).1).run (p.on s).2 = _
  cases p.on s with
  | mk result s => cases result <;> rfl

end Writing

/-! ## Procedures -/

namespace Report

section
variable {σ : Type} (put : String → Writing σ Unit)

def writeLine (line : Line) : Writing σ Unit := do
  put line.label
  put line.value
  put Line.lineEnd

def writeHeader (id : FaultId) (pc : UInt32) (info : UInt64) : Writing σ Unit := do
  writeLine put .title
  writeLine put (.identifier id)
  writeLine put (.programCounter pc)
  writeLine put (.information info)

def writeLocation (place : Location) : Writing σ Unit := do
  writeLine put (.lineNumber place.line)
  writeLine put (.fileName place.file)

def writeFault (address : UInt64) (pc : UInt32) (event : FaultEvent) : Writing σ Unit := do
  writeHeader put event.id pc (event.infoWord address)
  match event with
  | .assertion info =>
    if let some place := info.location? then
      writeLocation put place
  | .error info =>
    if let some place := info.location? then
      writeLocation put place
    writeLine put (.errorCode info.code)
  | .unknown .. => pure ()

def writeRecord : Option FaultRecord → Writing σ Unit
  | none => writeLine put .noRecord
  | some record => do
    writeHeader put record.id record.pc record.info
    writeLine put (.faultType (record.id.name?.getD "unknown"))
    if let some code := record.errorCode? then
      writeLine put (.errorCode code)

/-! ## The pieces of a report in a row -/

theorem forM_pieces (report : Report) : forM report.pieces put = forM report (writeLine put) := by
  induction report with
  | nil => rfl
  | cons line rest ih =>
    have hline : forM line.pieces put = writeLine put line := by simp [Line.pieces, writeLine]
    rw [pieces, List.flatMap_cons, List.forM_append, hline, List.forM_cons, ← ih, pieces]

theorem writeHeader_eq (id : FaultId) (pc : UInt32) (info : UInt64) :
    writeHeader put id pc info = forM (header id pc info).pieces put := by
  rw [forM_pieces]
  simp [writeHeader, header]

theorem forM_location (place? : Option Location) :
    forM (location place?) (writeLine put) =
      match place? with
      | some place => writeLocation put place
      | none => pure () := by
  cases place? with
  | none => rfl
  | some place => simp [writeLocation, location]

theorem writeFault_eq (address : UInt64) (pc : UInt32) (event : FaultEvent) :
    writeFault put address pc event = forM (ofFault address pc event).pieces put := by
  unfold writeFault ofFault
  rw [writeHeader_eq, forM_pieces, forM_pieces, List.forM_append]
  cases event with
  | unknown => rfl
  | assertion info =>
    dsimp only
    rw [forM_location]
    cases info.location? <;> rfl
  | error info =>
    dsimp only
    rw [List.forM_append, forM_location]
    cases info.location? <;> simp

theorem writeRecord_eq (record : Option FaultRecord) :
    writeRecord put record = forM (ofRecord? record).pieces put := by
  rw [forM_pieces]
  cases record with
  | none => simp [writeRecord, ofRecord?]
  | some record =>
    rw [writeRecord, writeHeader_eq, forM_pieces, ofRecord?, List.forM_append, List.forM_cons]
    cases record.errorCode? <;> simp [errorCode]

end

end Report

/-! ## Writers -/

namespace Writer

/-- Hands a piece to a writer. -/
def put (piece : String) : Writing Writer Unit := ExceptT.mk fun w => w.write piece

theorem on_forM_put (pieces : List String) (w : Writer) : Writing.on (forM pieces put) w = w.writeAll pieces := by
  induction pieces generalizing w with
  | nil => rfl
  | cons piece rest ih =>
    have hput : Writing.on (put piece) w = w.write piece := rfl
    rw [List.forM_cons, Writing.on_bind, hput, writeAll]
    cases w.write piece with
    | mk result w =>
      cases result with
      | ok => exact ih w
      | error e => rfl

/-- However a text is cut in pieces, the writer takes the same of it. -/
theorem writeAll_congr {pieces pieces' : List String} (h : String.join pieces' = String.join pieces) (w : Writer) :
    w.writeAll pieces' = w.writeAll pieces := by
  rw [writeAll_eq, writeAll_eq, ← Text.Utf8.encode_join, ← Text.Utf8.encode_join, h]

/-- Hands a piece to a writer, and notes it whether it fits or not. -/
def note (piece : String) : Writing (Writer × List String) Unit :=
  ExceptT.mk fun (w, asked) => ((w.write piece).1, (w.write piece).2, asked ++ [piece])

/-- The pieces that a writer is asked to take: all of them, or no more than the first that does not fit. -/
inductive Asked (w : Writer) (pieces : List String) : List String → Prop
  | all : w.Accepts (pieces.flatMap Text.Utf8.encode) → Asked w pieces pieces
  | cut {before rest : List String} {last : String} : pieces = before ++ last :: rest →
    w.Accepts (before.flatMap Text.Utf8.encode) → ¬ w.Accepts ((before ++ [last]).flatMap Text.Utf8.encode) →
      Asked w pieces (before ++ [last])

theorem Asked.cons {w : Writer} {piece : String} {rest asked : List String} (hpiece : w.Accepts (Text.Utf8.encode piece))
    (h : Asked (w.after (Text.Utf8.encode piece)) rest asked) : Asked w (piece :: rest) (piece :: asked) := by
  have haccepts : ∀ pieces : List String, w.Accepts ((piece :: pieces).flatMap Text.Utf8.encode) ↔
      (w.after (Text.Utf8.encode piece)).Accepts (pieces.flatMap Text.Utf8.encode) := by
    intro pieces
    rw [List.flatMap_cons, accepts_append, and_iff_right hpiece]
  cases h with
  | all hall => exact .all ((haccepts rest).mpr hall)
  | @cut before rest last hsplit hbefore hlast =>
    have hsplit' : piece :: (before ++ last :: rest) = (piece :: before) ++ last :: rest := rfl
    rw [hsplit]
    exact .cut hsplit' ((haccepts before).mpr hbefore) fun hfits => hlast ((haccepts (before ++ [last])).mp hfits)

theorem on_forM_note (pieces : List String) (w : Writer) (noted : List String) :
    ∃ asked, Writing.on (forM pieces note) (w, noted) =
        ((w.writeAll pieces).1, (w.writeAll pieces).2, noted ++ asked) ∧ Asked w pieces asked := by
  induction pieces generalizing w noted with
  | nil =>
    have hnothing : Writing.on (forM [] note) (w, noted) = (.ok (), w, noted ++ []) := by
      rw [List.append_nil]
      rfl
    exact ⟨[], hnothing, .all (by simp [Accepts])⟩
  | cons piece rest ih =>
    have hnote : Writing.on (note piece) (w, noted) = ((w.write piece).1, (w.write piece).2, noted ++ [piece]) := rfl
    rw [List.forM_cons, Writing.on_bind, hnote, writeAll, write, writeBytes_eq]
    by_cases hpiece : w.Accepts (Text.Utf8.encode piece)
    · have hfirst : w.outcome (Text.Utf8.encode piece) = .ok () := if_pos hpiece
      obtain ⟨asked, hrest, hasked⟩ := ih (w.after (Text.Utf8.encode piece)) (noted ++ [piece])
      rw [hfirst]
      dsimp only
      refine ⟨piece :: asked, ?_, hasked.cons hpiece⟩
      rw [hrest, List.append_assoc, List.singleton_append]
    · have hfirst : w.outcome (Text.Utf8.encode piece) = .error w.full := if_neg hpiece
      have hcut : Asked w (piece :: rest) ([] ++ [piece]) := .cut rfl (by simp [Accepts]) (by simpa using hpiece)
      rw [hfirst]
      exact ⟨[piece], rfl, hcut⟩

end Writer

/-! ## Reports that are cut off -/

namespace Report

/-- A procedure that writes by handing pieces to whatever takes them. -/
abbrev Procedure := (σ : Type) → (String → Writing σ Unit) → Writing σ Unit

def Procedure.on (render : Procedure) (w : Writer) : Except IoError Unit × Writer :=
  Writing.on (render Writer Writer.put) w

/-- What a procedure that writes a report does on a writer that takes `n` bytes and then fails. -/
structure CutOff (render : Procedure) (report : Report) (w : Writer) (n : Nat) : Prop where
  /-- Without end, the whole report is written. -/
  whole : render.on {} = (.ok (), { written := Text.Utf8.encode report.text })
  written : (render.on { w with room := some n }).2.written = w.written ++ (render.on {}).2.written.take n
  result : (render.on { w with room := some n }).1 =
    if (render.on {}).2.written.length ≤ n then .ok () else .error w.full
  /-- After a piece that does not fit, no other one is handed over. -/
  stops : ∃ asked, Writing.on (render _ Writer.note) ({ w with room := some n }, []) =
      ((render.on { w with room := some n }).1, (render.on { w with room := some n }).2, asked) ∧
    Writer.Asked { w with room := some n } report.pieces asked
  /-- It makes no difference in what pieces the report is written. -/
  pieces : ∀ pieces, String.join pieces = report.text → ∀ w : Writer, w.writeAll pieces = render.on w

theorem cutOff_of_forM {render : Procedure} {report : Report}
    (h : ∀ (σ : Type) (put : String → Writing σ Unit), render σ put = forM report.pieces put) (w : Writer) (n : Nat) :
    CutOff render report w n := by
  have hrun : ∀ w : Writer, render.on w = w.writeAll report.pieces := by
    intro w
    rw [Procedure.on, h, Writer.on_forM_put]
  have hbytes : report.pieces.flatMap Text.Utf8.encode = Text.Utf8.encode report.text := by
    rw [text, Text.Utf8.encode_join]
  have hwhole : render.on {} = (.ok (), { written := Text.Utf8.encode report.text }) := by
    rw [hrun, Writer.writeAll_eq, hbytes]
    rfl
  have hlimited : render.on { w with room := some n } =
      (Writer.outcome { w with room := some n } (Text.Utf8.encode report.text),
        Writer.after { w with room := some n } (Text.Utf8.encode report.text)) := by
    rw [hrun, Writer.writeAll_eq, hbytes]
  refine ⟨hwhole, ?_, ?_, ?_, ?_⟩
  · rw [hlimited, hwhole]
    rfl
  · rw [hlimited, hwhole]
    simp [Writer.outcome, Writer.Accepts]
  · rw [hrun, h]
    exact Writer.on_forM_note report.pieces { w with room := some n } []
  · intro pieces hjoin w
    rw [hrun]
    exact Writer.writeAll_congr hjoin w

/-- **Every report is cut off at the byte where the writer is full, and reports the failure.** -/
theorem procedures_cut_off (w : Writer) (n : Nat) :
    (∀ id pc info, CutOff (fun _ put => writeHeader put id pc info) (header id pc info) w n) ∧
      (∀ address pc event, CutOff (fun _ put => writeFault put address pc event) (ofFault address pc event) w n) ∧
      ∀ record, CutOff (fun _ put => writeRecord put record) (ofRecord? record) w n := by
  refine ⟨fun id pc info => ?_, fun address pc event => ?_, fun record => ?_⟩
  · exact cutOff_of_forM (fun _ put => writeHeader_eq put id pc info) w n
  · exact cutOff_of_forM (fun _ put => writeFault_eq put address pc event) w n
  · exact cutOff_of_forM (fun _ put => writeRecord_eq put record) w n

/-- The cut may fall into a letter of a file name. -/
example :
    let render : Procedure := fun _ put => writeLine put (.fileName "ü.c")
    let (result, w) := render.on { room := some 14 }
    result.toOption = none ∧ w.written.getLast? = some 0xC3 := by
  decide +kernel

end Report
end PostMortem
