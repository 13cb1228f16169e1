import PostMortem.Proofs.Report.Unambiguous
import PostMortem.Proofs.Store.Opening
import PostMortem.Proofs.Store.Resets

/-! # The report of a fault and the report of its record

A fault is reported while the program still runs, from its event, and again after the program is gone, from its record.
Both reports begin with the same four lines. Then the first goes on with the location, which no record holds, and the
second with the name of the identifier, which the first leaves out. Both end with the error code if there is one. The
first asks the event for it and the second the identifier, which makes a difference for an unknown fault that has the
identifier of an error, and for no other.

* `headerText`, `locationText`, `typeText`, `codeText`: the parts of reports, letter by letter.
* `ofFault_text`, `ofRecord?_text`: what the two reports are made up of.
* `errorCode?_capture`: the error code in the record of an event.
* `reports_agree`: the two reports of every fault side by side.
-/
set_option autoImplicit false

namespace PostMortem

/-! ## Events under the name of an error -/

/-- An unknown fault with the identifier of an error. -/
def FaultEvent.PosesAsError (event : FaultEvent) : Prop := ∃ info, event = .unknown .sdkError info

theorem FaultRecord.errorCode?_capture (address : UInt64) (pc : UInt32) (event : FaultEvent) :
    event.PosesAsError ∧ event.errorCode? = none ∧ (capture address pc event).errorCode? = some ⟨0⟩ ∨
      ¬ event.PosesAsError ∧ (capture address pc event).errorCode? = event.errorCode? := by
  cases event with
  | error info =>
    right
    constructor
    · rintro ⟨info, h⟩
      cases h
    · rfl
  | assertion info =>
    right
    constructor
    · rintro ⟨info, h⟩
      cases h
    · rfl
  | unknown id info =>
    by_cases hid : id = .sdkError
    · subst hid
      exact .inl ⟨⟨info, rfl⟩, rfl, rfl⟩
    · right
      constructor
      · rintro ⟨other, h⟩
        exact hid (FaultEvent.unknown.inj h).1
      · exact if_neg hid

namespace Report

/-! ## Parts of reports -/

/-- The four lines that both reports begin with. -/
def headerText (id : FaultId) (pc : UInt32) (info : UInt64) : String :=
  "Fault report:\r\n" ++
  "Fault identifier:  " ++ id.text ++ "\r\n" ++
  "Program counter:   " ++ Text.Hex.text pc.toNat ++ "\r\n" ++
  "Fault information: " ++ Text.Hex.text info.toNat ++ "\r\n"

/-- The two lines of a location, nothing when it was not captured. -/
def locationText : Option Location → String
  | some place => "Line Number: " ++ toString place.line.toNat ++ "\r\n" ++ "File Name:   " ++ place.file ++ "\r\n"
  | none => ""

/-- The line of what an identifier is called. -/
def typeText (id : FaultId) : String :=
  "Fault type:        " ++
    (if id = ⟨0x4001⟩ then "SDK_ERROR" else if id = ⟨0x4002⟩ then "SDK_ASSERT" else "unknown") ++ "\r\n"

/-- The line of an error code, nothing when there is no code. -/
def codeText : Option StatusCode → String
  | some code => "Error Code:  " ++ code.text ++ "\r\n"
  | none => ""

theorem text_append (first second : Report) : text (first ++ second) = text first ++ text second := by
  simp [text, pieces, String.join_append]

theorem text_singleton (line : Line) : text [line] = line.label ++ line.value ++ "\r\n" := by
  simp [text, pieces, Line.pieces, Line.lineEnd, String.join_cons, String.append_assoc]

theorem text_cons (line : Line) (rest : Report) :
    text (line :: rest) = line.label ++ line.value ++ "\r\n" ++ text rest := by
  rewrite [← text_singleton]
  exact text_append [line] rest

theorem text_header (id : FaultId) (pc : UInt32) (info : UInt64) : text (header id pc info) = headerText id pc info := by
  have htitle : Line.label .title ++ Line.value .title ++ "\r\n" = "Fault report:\r\n" := rfl
  unfold header headerText
  -- not `rw`, which would go on to compare the texts themselves
  rewrite [text_cons, text_cons, text_cons, text_singleton, htitle]
  simp only [String.append_assoc, Line.label, Line.value]

theorem text_location (place : Option Location) : text (location place) = locationText place := by
  cases place with
  | none => rfl
  | some place =>
    unfold location locationText
    rewrite [text_cons, text_singleton]
    simp only [String.append_assoc, Line.label, Line.value]

theorem text_errorCode (code : Option StatusCode) : text (errorCode code) = codeText code := by
  cases code with
  | none => rfl
  | some code => exact text_singleton _

theorem text_faultType (id : FaultId) : text [.faultType (id.name?.getD "unknown")] = typeText id := by
  have herror : (⟨0x4001⟩ : FaultId) = .sdkError := rfl
  have hassert : (⟨0x4002⟩ : FaultId) = .sdkAssert := rfl
  have hname : id.name?.getD "unknown" =
      if id = .sdkError then "SDK_ERROR" else if id = .sdkAssert then "SDK_ASSERT" else "unknown" := by
    unfold FaultId.name?
    split
    · rfl
    · split <;> rfl
  unfold typeText
  rewrite [hname, herror, hassert]
  exact text_singleton _

theorem codeText_injective {code code' : Option StatusCode} (h : codeText code = codeText code') : code = code' := by
  rw [← text_errorCode, ← text_errorCode] at h
  exact errorCodes_inj (congrArg String.toList h)

/-! ## Both reports -/

theorem ofFault_text (address : UInt64) (pc : UInt32) (event : FaultEvent) :
    (ofFault address pc event).text =
      headerText event.id pc (event.infoWord address) ++ locationText event.location? ++ codeText event.errorCode? := by
  rw [ofFault_eq, text_append, text_append, text_header, text_location, text_errorCode, String.append_assoc]

theorem ofRecord?_text (record : FaultRecord) :
    (ofRecord? (some record)).text =
      headerText record.id record.pc record.info ++ typeText record.id ++ codeText record.errorCode? := by
  have hlines : ofRecord? (some record) =
      header record.id record.pc record.info ++
        ([.faultType (record.id.name?.getD "unknown")] ++ errorCode record.errorCode?) := rfl
  rw [hlines, text_append, text_append, text_header, text_faultType, text_errorCode, String.append_assoc]

/-- **The report of a fault and that of its record differ in the location and in the type, and in the error code just if
the fault is unknown but has the identifier of an error. A store makes no difference.** -/
theorem reports_agree (address : UInt64) (pc : UInt32) (event : FaultEvent) :
    let record := FaultRecord.capture address pc event
    let common := headerText event.id pc (event.infoWord address)
    (ofFault address pc event).text = common ++ locationText event.location? ++ codeText event.errorCode? ∧
      (ofRecord? (some record)).text = common ++ typeText event.id ++ codeText record.errorCode? ∧
      (codeText record.errorCode? = codeText event.errorCode? ↔ ¬ event.PosesAsError) ∧
      (event.PosesAsError →
        codeText event.errorCode? = "" ∧ codeText record.errorCode? = "Error Code:  0x00\r\n") ∧
      (∀ region : Region, (ofRecord? (region.save record).read).text = (ofRecord? (some record)).text) ∧
      ∀ (m : MappedRecord) (t : FileTree), (t.content m.node).length = Image.size →
        (ofRecord? (m.load (m.save record t))).text = (ofRecord? (some record)).text := by
  intro record common
  have hcode := FaultRecord.errorCode?_capture address pc event
  refine ⟨ofFault_text address pc event, ofRecord?_text record, ?_, ?_, ?_, ?_⟩
  · rcases hcode with ⟨hposes, hnone, hzero⟩ | ⟨hposes, hsame⟩
    · rw [hnone, hzero]
      exact iff_of_false (fun heq => by cases codeText_injective heq) (not_not_intro hposes)
    · exact iff_of_true (congrArg codeText hsame) hposes
  · intro hposes
    rcases hcode with ⟨-, hnone, hzero⟩ | ⟨hother, -⟩
    · rw [hnone, hzero]
      exact ⟨rfl, by decide +kernel⟩
    · exact absurd hposes hother
  · intro region
    rw [Region.read_save]
  · intro m t hsize
    rw [MappedRecord.load_save hsize]

/-- An unknown fault with the identifier of an error: only the report of its record shows a code, here after the record
has been in a file that was full of other things. -/
theorem reports_agree_of_impostor :
    let event : FaultEvent := .unknown .sdkError 9
    let record := FaultRecord.capture 0x1000 5 event
    let m : MappedRecord := ⟨"record.bin", 2⟩
    let t := (FileTree.fresh ["work"]).setContent 2 (List.replicate 32 0x46)
    let common := "Fault report:\r\nFault identifier:  0x4001\r\nProgram counter:   0x5\r\nFault information: 0x9\r\n"
    event.PosesAsError ∧ (t.content m.node).length = Image.size ∧ (ofFault 0x1000 5 event).text = common ∧
      (ofRecord? (m.load (m.save record t))).text =
        common ++ "Fault type:        SDK_ERROR\r\nError Code:  0x00\r\n" := by
  intro event record m t common
  have hposes : event.PosesAsError := ⟨9, rfl⟩
  have hsize : (t.content m.node).length = Image.size := by decide +kernel
  obtain ⟨hlive, hpersisted, -, hcodes, -, hfile⟩ := reports_agree 0x1000 5 event
  obtain ⟨hnone, hzero⟩ := hcodes hposes
  refine ⟨hposes, hsize, ?_, ?_⟩
  · rewrite [hlive, hnone]
    decide +kernel
  · rewrite [hfile m t hsize, hpersisted, hzero]
    decide +kernel

end Report
end PostMortem
