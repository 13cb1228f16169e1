import Mathlib
import PostMortem.Proofs.Text.Hex
import PostMortem.Proofs.Writer
import PostMortem.Report.Layout

/-! # Reports can be read in one way only

A report is a row of lines with a label, a value and a line end each. The values are numbers, in which there is no line
end, so that each is seen where it ends; all but the file name, which is written as it is and may look like any lines
whatever. But there is one file name at most, and of what can follow it, the line of the error code, all is known: the
last blank of a report stands before the code. Whether that line is there at all is told by the identifier, which an
unknown fault may share with an error, but not with its lines.

* `Report.header_inj`: the four lines that every report begins with.
* `Report.location_inj`, `Report.location_errorCode_inj`: what can follow them.
* `Report.faultBytes_eq_iff`: which faults have the same report.
-/
set_option autoImplicit false

namespace PostMortem

/-! ## Separators -/

/-- What stands before the first separator, and what stands behind it. -/
theorem append_cons_inj {α : Type} {a : α} {x y z w : List α} (hx : a ∉ x) (hy : a ∉ y)
    (h : x ++ a :: z = y ++ a :: w) : x = y ∧ z = w := by
  induction x generalizing y with
  | nil =>
    cases y with
    | nil => exact ⟨rfl, List.tail_eq_of_cons_eq h⟩
    | cons b y => exact absurd (List.head_eq_of_cons_eq h) fun heq => hy (heq ▸ List.mem_cons_self)
  | cons b x ih =>
    cases y with
    | nil => exact absurd (List.head_eq_of_cons_eq h) fun heq => hx (heq ▸ List.mem_cons_self)
    | cons c y =>
      obtain ⟨hhead, htail⟩ := List.cons.inj h
      obtain ⟨hxy, hzw⟩ := ih (fun hmem => hx (List.mem_cons_of_mem _ hmem))
        (fun hmem => hy (List.mem_cons_of_mem _ hmem)) htail
      exact ⟨congrArg₂ List.cons hhead hxy, hzw⟩

/-- What stands before the last separator, and what stands behind it. -/
theorem append_cons_inj_last {α : Type} {a : α} {x y z w : List α} (hz : a ∉ z) (hw : a ∉ w)
    (h : x ++ a :: z = y ++ a :: w) : x = y ∧ z = w := by
  have hreverse := congrArg List.reverse h
  simp only [List.reverse_append, List.reverse_cons, List.append_assoc, List.singleton_append] at hreverse
  obtain ⟨hzw, hxy⟩ := append_cons_inj (by simpa using hz) (by simpa using hw) hreverse
  exact ⟨List.reverse_injective hxy, List.reverse_injective hzw⟩

/-! ## Lines -/

namespace Line

/-- Whether the value of a line is a number, or nothing. -/
def isNumeric : Line → Bool
  | fileName _ => false
  | faultType _ => false
  | _ => true

theorem notMem_of_hex {value : List Char} (h : ∀ c ∈ value, c = 'x' ∨ ∃ d < 16, c = Text.Hex.digit d) : '\r' ∉ value :=
  fun hmem => (Text.Hex.ne_of_mem (h _ hmem)).1 rfl

/-- No number has a line end in it. -/
theorem notMem_value {line : Line} (h : line.isNumeric = true) : '\r' ∉ line.value.toList := by
  cases line with
  | title => simp [value]
  | identifier id => exact notMem_of_hex fun _ => Text.Hex.mem_text
  | programCounter pc => exact notMem_of_hex fun _ => Text.Hex.mem_text
  | information word => exact notMem_of_hex fun _ => Text.Hex.mem_text
  | lineNumber line =>
    intro hmem
    have hdigit := Nat.isDigit_of_mem_toDigits (by decide) (by decide) (Nat.toList_repr ▸ hmem)
    exact absurd hdigit (by decide)
  | fileName file => cases h
  | faultType name => cases h
  | errorCode code => exact notMem_of_hex fun _ => Text.Hex.mem_paddedText
  | noRecord => simp [value]

end Line

namespace Report

def chars (report : Report) : List Char := (text report).toList

theorem chars_nil : chars [] = [] := rfl

theorem chars_cons (line : Line) (rest : Report) :
    chars (line :: rest) = line.label.toList ++ (line.value.toList ++ '\r' :: '\n' :: chars rest) := by
  simp [chars, text, pieces, Line.pieces, Line.lineEnd]

theorem cons_inj {line line' : Line} {rest rest' : Report} (h : chars (line :: rest) = chars (line' :: rest'))
    (hlabel : line.label = line'.label) (hline : line.isNumeric = true) (hline' : line'.isNumeric = true) :
    line.value = line'.value ∧ chars rest = chars rest' := by
  rw [chars_cons, chars_cons, hlabel] at h
  have hlines := List.append_cancel_left h
  obtain ⟨hvalue, hrest⟩ := append_cons_inj (Line.notMem_value hline) (Line.notMem_value hline') hlines
  exact ⟨String.toList_inj.mp hvalue, List.tail_eq_of_cons_eq hrest⟩

theorem header_append (id : FaultId) (pc : UInt32) (info : UInt64) (rest : Report) :
    header id pc info ++ rest = .title :: .identifier id :: .programCounter pc :: .information info :: rest := rfl

theorem header_inj {id id' : FaultId} {pc pc' : UInt32} {info info' : UInt64} {rest rest' : Report}
    (h : chars (header id pc info ++ rest) = chars (header id' pc' info' ++ rest')) :
    id = id' ∧ pc = pc' ∧ info = info' ∧ chars rest = chars rest' := by
  rw [header_append, header_append] at h
  obtain ⟨-, h⟩ := cons_inj h rfl rfl rfl
  obtain ⟨hid, h⟩ := cons_inj h rfl rfl rfl
  obtain ⟨hpc, h⟩ := cons_inj h rfl rfl rfl
  obtain ⟨hinfo, h⟩ := cons_inj h rfl rfl rfl
  have hraw : id.raw = id'.raw := UInt32.toNat_inj.mp (Text.Hex.text_injective hid)
  exact ⟨congrArg FaultId.mk hraw, UInt32.toNat_inj.mp (Text.Hex.text_injective hpc),
    UInt64.toNat_inj.mp (Text.Hex.text_injective hinfo), h⟩

/-! ## Locations and error codes -/

theorem lineNumber_inj {line line' : UInt16} {rest rest' : Report}
    (h : chars (.lineNumber line :: rest) = chars (.lineNumber line' :: rest')) :
    line = line' ∧ chars rest = chars rest' := by
  obtain ⟨hline, h⟩ := cons_inj h rfl rfl rfl
  exact ⟨UInt16.toNat_inj.mp (Nat.repr_injective hline), h⟩

theorem errorCode_inj {code code' : StatusCode} (h : chars [.errorCode code] = chars [.errorCode code']) :
    code = code' := by
  obtain ⟨hcode, -⟩ := cons_inj h rfl rfl rfl
  exact congrArg StatusCode.mk (UInt32.toNat_inj.mp (Text.Hex.paddedText_injective hcode))

theorem fileName_inj {file file' : String} (h : chars [.fileName file] = chars [.fileName file']) : file = file' := by
  rw [chars_cons, chars_cons] at h
  exact String.toList_inj.mp (List.append_cancel_right (List.append_cancel_left h))

theorem chars_errorCode (code : StatusCode) :
    chars [.errorCode code] = "Error Code: ".toList ++ ' ' :: (code.text.toList ++ ['\r', '\n']) := by
  simp [chars_cons, chars_nil, Line.label, Line.value]

theorem fileName_errorCode_inj {file file' : String} {code code' : StatusCode}
    (h : chars [.fileName file, .errorCode code] = chars [.fileName file', .errorCode code']) :
    file = file' ∧ code = code' := by
  -- the name may have blanks of its own, but what follows the last one is the code
  have hblank : ∀ code : StatusCode, ' ' ∉ code.text.toList ++ ['\r', '\n'] := by
    intro code hmem
    rcases List.mem_append.mp hmem with hmem | hmem
    · exact (Text.Hex.ne_of_mem (Text.Hex.mem_paddedText hmem)).2.2 rfl
    · exact absurd hmem (by decide)
  have hshape : ∀ (file : String) (code : StatusCode),
      file.toList ++ '\r' :: '\n' :: chars [.errorCode code] =
        (file.toList ++ '\r' :: '\n' :: "Error Code: ".toList) ++ ' ' :: (code.text.toList ++ ['\r', '\n']) := by
    intro file code
    rw [chars_errorCode]
    simp
  rw [chars_cons (.fileName file), chars_cons (.fileName file')] at h
  have hvalue := List.append_cancel_left h
  change file.toList ++ _ = file'.toList ++ _ at hvalue
  rw [hshape, hshape] at hvalue
  obtain ⟨hfile, hcode⟩ := append_cons_inj_last (hblank code) (hblank code') hvalue
  have hraw := Text.Hex.paddedText_injective (String.toList_inj.mp (List.append_cancel_right hcode))
  exact ⟨String.toList_inj.mp (List.append_cancel_right hfile), congrArg StatusCode.mk (UInt32.toNat_inj.mp hraw)⟩

theorem chars_cons_ne_nil (line : Line) (rest : Report) : chars (line :: rest) ≠ [] := by simp [chars_cons]

theorem errorCodes_inj {code code' : Option StatusCode} (h : chars (errorCode code) = chars (errorCode code')) :
    code = code' := by
  cases code with
  | none =>
    cases code' with
    | none => rfl
    | some code' => exact absurd h.symm (chars_cons_ne_nil _ _)
  | some code =>
    cases code' with
    | none => exact absurd h (chars_cons_ne_nil _ _)
    | some code' => exact congrArg some (errorCode_inj h)

theorem location_inj {place place' : Option Location} (h : chars (location place) = chars (location place')) :
    place = place' := by
  cases place with
  | none =>
    cases place' with
    | none => rfl
    | some place' => exact absurd h.symm (chars_cons_ne_nil _ _)
  | some place =>
    cases place' with
    | none => exact absurd h (chars_cons_ne_nil _ _)
    | some place' =>
      obtain ⟨hline, h⟩ := lineNumber_inj h
      exact congrArg some (congrArg₂ Location.mk hline (fileName_inj h))

theorem chars_lineNumber_ne_errorCode (line : UInt16) (code : StatusCode) (rest rest' : Report) :
    chars (.lineNumber line :: rest) ≠ chars (.errorCode code :: rest') := by
  intro h
  have hfirst := congrArg List.head? h
  simp [chars_cons, Line.label] at hfirst

theorem location_errorCode_inj {place place' : Option Location} {code code' : StatusCode}
    (h : chars (location place ++ [.errorCode code]) = chars (location place' ++ [.errorCode code'])) :
    place = place' ∧ code = code' := by
  cases place with
  | none =>
    cases place' with
    | none => exact ⟨rfl, errorCode_inj h⟩
    | some place' => exact absurd h.symm (chars_lineNumber_ne_errorCode _ _ _ _)
  | some place =>
    cases place' with
    | none => exact absurd h (chars_lineNumber_ne_errorCode _ _ _ _)
    | some place' =>
      obtain ⟨hline, h⟩ := lineNumber_inj h
      obtain ⟨hfile, hcode⟩ := fileName_errorCode_inj h
      exact ⟨congrArg some (congrArg₂ Location.mk hline hfile), hcode⟩

/-! ## Whole reports -/

theorem ofFault_eq (address : UInt64) (pc : UInt32) (event : FaultEvent) :
    ofFault address pc event =
      header event.id pc (event.infoWord address) ++ (location event.location? ++ errorCode event.errorCode?) := by
  cases event with
  | error info => rfl
  | assertion info => simp [ofFault, FaultEvent.location?, FaultEvent.errorCode?, errorCode]
  | unknown id info => rfl

theorem chars_errorCode_ne_nil (place : Option Location) (code : StatusCode) :
    chars (location place ++ [.errorCode code]) ≠ [] := by
  cases place with
  | none => exact chars_cons_ne_nil _ _
  | some place => exact chars_cons_ne_nil _ _

theorem id_of_errorCode? {event : FaultEvent} {code : StatusCode} (h : event.errorCode? = some code) :
    event.id = .sdkError := by
  cases event with
  | error info => rfl
  | assertion info => cases h
  | unknown id info => cases h

/-- What has the identifier of an error, but no code, is unknown. -/
theorem details_eq_nil {event : FaultEvent} (hid : event.id = .sdkError) (hcode : event.errorCode? = none) :
    location event.location? = [] := by
  cases event with
  | error info => cases hcode
  | assertion info =>
    have hother : FaultId.sdkAssert ≠ FaultId.sdkError := by decide
    exact absurd hid hother
  | unknown id info => rfl

theorem details_inj {event event' : FaultEvent} (hid : event.id = event'.id)
    (h : chars (location event.location? ++ errorCode event.errorCode?) =
      chars (location event'.location? ++ errorCode event'.errorCode?)) :
    event.location? = event'.location? ∧ event.errorCode? = event'.errorCode? := by
  cases hcode : event.errorCode? with
  | none =>
    cases hcode' : event'.errorCode? with
    | none =>
      rw [hcode, hcode', errorCode, List.append_nil, List.append_nil] at h
      exact ⟨location_inj h, rfl⟩
    | some code' =>
      have hnil := details_eq_nil (hid.trans (id_of_errorCode? hcode')) hcode
      rw [hcode, hcode', hnil] at h
      exact absurd h.symm (chars_errorCode_ne_nil _ _)
  | some code =>
    cases hcode' : event'.errorCode? with
    | none =>
      have hnil := details_eq_nil (hid.symm.trans (id_of_errorCode? hcode)) hcode'
      rw [hcode, hcode', hnil] at h
      exact absurd h (chars_errorCode_ne_nil _ _)
    | some code' =>
      rw [hcode, hcode'] at h
      obtain ⟨hplace, rfl⟩ := location_errorCode_inj h
      exact ⟨hplace, rfl⟩

/-- The identifiers must be the same: a file name can look like a name and a code. -/
example :
    chars (location (some ⟨1, "a\r\nError Code:  0x07"⟩)) = chars (location (some ⟨1, "a"⟩) ++ [.errorCode ⟨7⟩]) := by
  decide +kernel

/-- What a writer with room without end gets of the report of a fault. -/
def faultBytes (address : UInt64) (pc : UInt32) (event : FaultEvent) : List UInt8 :=
  (({} : Writer).writeAll (ofFault address pc event).pieces).2.written

theorem faultBytes_eq (address : UInt64) (pc : UInt32) (event : FaultEvent) :
    faultBytes address pc event = Text.Utf8.encode (ofFault address pc event).text := by
  rw [faultBytes, Writer.writeAll_eq, text, Text.Utf8.encode_join]
  rfl

/-- **Two faults have the same report just if they have the same program counter, identifier, info word, location and
error code.** -/
theorem faultBytes_eq_iff (address address' : UInt64) (pc pc' : UInt32) (event event' : FaultEvent) :
    faultBytes address pc event = faultBytes address' pc' event' ↔
      pc = pc' ∧ event.id = event'.id ∧ event.infoWord address = event'.infoWord address' ∧
        event.location? = event'.location? ∧ event.errorCode? = event'.errorCode? := by
  rw [faultBytes_eq, faultBytes_eq]
  constructor
  · intro h
    have hchars := congrArg String.toList (Text.Utf8.encode_injective h)
    rw [ofFault_eq, ofFault_eq] at hchars
    obtain ⟨hid, hpc, hinfo, hdetails⟩ := header_inj hchars
    exact ⟨hpc, hid, hinfo, details_inj hid hdetails⟩
  · rintro ⟨hpc, hid, hinfo, hplace, hcode⟩
    rw [ofFault_eq, ofFault_eq, hpc, hid, hinfo, hplace, hcode]

end Report
end PostMortem
