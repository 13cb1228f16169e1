import PostMortem.Proofs.Report.Agreement
import PostMortem.Proofs.Reporter.Handling

/-! # The log and the report show the same fields

A fault is shown in the log as one entry with fields, and on standard output as a report. Which of the two is seen is a
matter of the configuration, so they have to say the same: behind its header the report has the line, the file and the
code that are fields of the entry, and nothing else. Of an unknown fault neither decodes anything, so that it leaves no
entry, and the header alone.

* `LogEntry.lines`, `LogEntry.files`, `LogEntry.codes`: the fields of an entry by their kinds.
* `Report.fieldsText`: the fields of an entry, letter by letter, as a report shows them.
* `Report.FieldsShown`: what the entries of a fault and its report have in common.
* `Report.log_shows_fields`: this holds of what every fault leaves in the log.
-/
set_option autoImplicit false

namespace PostMortem

/-! ## Fields by kind -/

namespace LogField

def pc? : LogField → Option UInt32
  | pc value => some value
  | _ => none

def line? : LogField → Option UInt16
  | line value => some value
  | _ => none

def file? : LogField → Option String
  | file value => some value
  | _ => none

def code? : LogField → Option StatusCode
  | code value => some value
  | _ => none

end LogField

namespace LogEntry

/-- The program counters in an entry. -/
def pcs (entry : LogEntry) : List UInt32 := entry.fields.filterMap LogField.pc?

/-- The line numbers in an entry. -/
def lines (entry : LogEntry) : List UInt16 := entry.fields.filterMap LogField.line?

/-- The file names in an entry. -/
def files (entry : LogEntry) : List String := entry.fields.filterMap LogField.file?

/-- The status codes in an entry. -/
def codes (entry : LogEntry) : List StatusCode := entry.fields.filterMap LogField.code?

/-! ## The entry of a fault -/

/-- The fields of an error code, none when there is no code. -/
def codeFields : Option StatusCode → List LogField
  | some code => [.code code]
  | none => []

/-- The entry of a fault with some message. -/
def withFields (message : String) (pc : UInt32) (place : Option Location) (code : Option StatusCode) : LogEntry :=
  ⟨.error, message, .pc pc :: locationFields place ++ codeFields code⟩

variable {event : FaultEvent}

/-- What is not unknown leaves an entry with all that is known of it. -/
theorem ofFault?_of_payload (pc : UInt32) (h : event.hasPayload = true) :
    ∃ message, ofFault? pc event = some (withFields message pc event.location? event.errorCode?) := by
  cases event with
  | error info => exact ⟨_, rfl⟩
  | assertion info =>
    refine ⟨"*** ASSERTION FAILED ***", ?_⟩
    simp [ofFault?, withFields, codeFields, FaultEvent.location?, FaultEvent.errorCode?]
  | unknown id info => cases h

theorem mem_ofFault? {pc : UInt32} {entry : LogEntry} (h : entry ∈ ofFault? pc event) :
    ∃ message, entry = withFields message pc event.location? event.errorCode? := by
  cases hpayload : event.hasPayload with
  | true =>
    obtain ⟨message, hentry⟩ := ofFault?_of_payload pc hpayload
    rw [hentry, Option.mem_some_iff] at h
    exact ⟨message, h.symm⟩
  | false =>
    cases event with
    | error info => cases hpayload
    | assertion info => cases hpayload
    | unknown id info => cases h

section
variable (message : String) (pc : UInt32) (place : Option Location) (code : Option StatusCode)

theorem pcs_withFields : (withFields message pc place code).pcs = [pc] := by
  cases place <;> cases code <;> rfl

theorem lines_withFields : (withFields message pc place code).lines = (place.map Location.line).toList := by
  cases place <;> cases code <;> rfl

theorem files_withFields : (withFields message pc place code).files = (place.map Location.file).toList := by
  cases place <;> cases code <;> rfl

theorem codes_withFields : (withFields message pc place code).codes = code.toList := by
  cases place <;> cases code <;> rfl

end

end LogEntry

/-! ## The report of a fault -/

namespace Report

/-- The fields of an entry in the order of a report: line numbers, file names, codes. -/
def fieldsText (entry : LogEntry) : String :=
  String.join (entry.lines.map fun line => "Line Number: " ++ toString line.toNat ++ "\r\n") ++
    String.join (entry.files.map fun file => "File Name:   " ++ file ++ "\r\n") ++
    String.join (entry.codes.map fun code => "Error Code:  " ++ code.text ++ "\r\n")

theorem fieldsText_withFields (message : String) (pc : UInt32) (place : Option Location) (code : Option StatusCode) :
    fieldsText (.withFields message pc place code) = locationText place ++ codeText code := by
  rw [fieldsText, LogEntry.lines_withFields, LogEntry.files_withFields, LogEntry.codes_withFields]
  unfold locationText codeText
  apply String.toList_inj.mp
  cases place <;> cases code <;> simp

theorem lineNumber_mem_ofFault (address : UInt64) (pc : UInt32) (event : FaultEvent) :
    (∃ line, Line.lineNumber line ∈ ofFault address pc event) ↔ event.location? ≠ none := by
  rw [ofFault_eq]
  cases event.location? <;> cases event.errorCode? <;> simp [header, location, errorCode]

theorem fileName_mem_ofFault (address : UInt64) (pc : UInt32) (event : FaultEvent) :
    (∃ file, Line.fileName file ∈ ofFault address pc event) ↔ event.location? ≠ none := by
  rw [ofFault_eq]
  cases event.location? <;> cases event.errorCode? <;> simp [header, location, errorCode]

theorem errorCode_mem_ofFault (address : UInt64) (pc : UInt32) (event : FaultEvent) :
    (∃ code, Line.errorCode code ∈ ofFault address pc event) ↔ ∃ info, event = .error info := by
  rw [ofFault_eq]
  cases event <;> cases FaultEvent.location? _ <;> simp [header, location, errorCode, FaultEvent.errorCode?]

/-! ## Both at once -/

/-- The log entries of a fault, which say what its report says. -/
structure FieldsShown (address : UInt64) (pc : UInt32) (event : FaultEvent) (entries : List LogEntry) : Prop where
  error : ∀ info, event = .error info →
    ∃ entry, entries = [entry] ∧ entry.severity = .error ∧ entry.codes = [info.code]
  assertion : ∀ info, event = .assertion info →
    ∃ entry, entries = [entry] ∧ entry.severity = .error ∧ entry.codes = []
  unknown : ∀ id info, event = .unknown id info → entries = []
  /-- The program counter is the one in the header of the report. -/
  counter : ∀ entry ∈ entries, entry.pcs = [pc]
  text : (ofFault address pc event).text =
    headerText event.id pc (event.infoWord address) ++ String.join (entries.map fieldsText)
  placed : ∀ place, event.location? = some place → ∀ entry ∈ entries,
    entry.lines = [place.line] ∧ entry.files = [place.file]
  unplaced : event.location? = none → ∀ entry ∈ entries, entry.lines = [] ∧ entry.files = []
  lineShown : (∃ line, Line.lineNumber line ∈ ofFault address pc event) ↔ event.location? ≠ none
  fileShown : (∃ file, Line.fileName file ∈ ofFault address pc event) ↔ event.location? ≠ none
  codeShown : (∃ code, Line.errorCode code ∈ ofFault address pc event) ↔ ∃ info, event = .error info

theorem ofFault_text_eq_fieldsText (address : UInt64) (pc : UInt32) (event : FaultEvent) :
    (ofFault address pc event).text =
      headerText event.id pc (event.infoWord address) ++
        String.join ((LogEntry.ofFault? pc event).toList.map fieldsText) := by
  rw [ofFault_text, String.append_assoc]
  cases hpayload : event.hasPayload with
  | true =>
    obtain ⟨message, hentry⟩ := LogEntry.ofFault?_of_payload pc hpayload
    rw [hentry, Option.toList_some, List.map_singleton, fieldsText_withFields]
    simp
  | false =>
    cases event with
    | error info => cases hpayload
    | assertion info => cases hpayload
    | unknown id info => rfl

theorem fieldsShown (address : UInt64) (pc : UInt32) (event : FaultEvent) :
    FieldsShown address pc event (LogEntry.ofFault? pc event).toList where
  error info h := by
    obtain ⟨message, hentry⟩ := LogEntry.ofFault?_of_payload pc (h ▸ rfl : event.hasPayload = true)
    rw [hentry, h]
    exact ⟨_, rfl, rfl, LogEntry.codes_withFields _ _ _ _⟩
  assertion info h := by
    obtain ⟨message, hentry⟩ := LogEntry.ofFault?_of_payload pc (h ▸ rfl : event.hasPayload = true)
    rw [hentry, h]
    exact ⟨_, rfl, rfl, LogEntry.codes_withFields _ _ _ _⟩
  unknown id info h := by
    rw [h]
    rfl
  counter _ hmem := by
    obtain ⟨message, rfl⟩ := LogEntry.mem_ofFault? (Option.mem_toList.mp hmem)
    exact LogEntry.pcs_withFields _ _ _ _
  text := ofFault_text_eq_fieldsText address pc event
  placed place hplace _ hmem := by
    obtain ⟨message, rfl⟩ := LogEntry.mem_ofFault? (Option.mem_toList.mp hmem)
    rw [LogEntry.lines_withFields, LogEntry.files_withFields, hplace]
    exact ⟨rfl, rfl⟩
  unplaced hplace _ hmem := by
    obtain ⟨message, rfl⟩ := LogEntry.mem_ofFault? (Option.mem_toList.mp hmem)
    rw [LogEntry.lines_withFields, LogEntry.files_withFields, hplace]
    exact ⟨rfl, rfl⟩
  lineShown := lineNumber_mem_ofFault address pc event
  fileShown := fileName_mem_ofFault address pc event
  codeShown := errorCode_mem_ofFault address pc event

/-- **A fault that is not unknown leaves one entry in the log, an error, and the line, file and code in it are those
that its report shows behind the header, letter by letter.** -/
theorem log_shows_fields (address : UInt64) (pc : UInt32) (event : FaultEvent) (r : Reporter) :
    ∃ entries, r.logFault pc event = { r with log := r.log ++ entries } ∧ FieldsShown address pc event entries :=
  ⟨_, Reporter.logFault_append pc event r, fieldsShown address pc event⟩

/-- Nothing of an unknown fault is decoded, even if it has the identifier of an error. -/
example : LogEntry.ofFault? 5 (.unknown .sdkError 9) = none ∧
    ofFault 0x1000 5 (.unknown .sdkError 9) = header .sdkError 5 9 := by decide

end Report
end PostMortem
