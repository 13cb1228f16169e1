import PostMortem.Proofs.Report.Unambiguous

/-! # What the report of a record tells

The report of a record is made up of numbers, and of the name of the identifier. So it tells whether there is a record
and which identifier, program counter and info word it has, and the error code as far as it shows one. What it does not
show of a captured record is zero, and so the report tells the whole of it.

* `Report.recordBytes`: the report of a record in bytes.
* `Report.ofRecord?_inj`: what two records have in common if their reports are the same.
* `FaultRecord.eq_of_errorCode?`: records without a hidden code that agree in all that is shown.
* `Report.recordBytes_tell`: what the report of a record tells.
-/
set_option autoImplicit false

namespace PostMortem

/-! ## Captured records -/

namespace FaultRecord

/-- A captured record has a code only under the identifier of an error, be its event an error or not. -/
theorem code_capture (address : UInt64) (pc : UInt32) (event : FaultEvent) :
    (capture address pc event).id = .sdkError ∨ (capture address pc event).code = ⟨0⟩ := by
  cases event with
  | error info => exact .inl rfl
  | assertion info => exact .inr rfl
  | unknown id info => exact .inr rfl

theorem eq_of_errorCode? {record record' : FaultRecord} (hid : record.id = record'.id) (hpc : record.pc = record'.pc)
    (hinfo : record.info = record'.info) (hcode : record.errorCode? = record'.errorCode?)
    (hzero : record.id = .sdkError ∨ record.code = ⟨0⟩) (hzero' : record'.id = .sdkError ∨ record'.code = ⟨0⟩) :
    record = record' := by
  have hcodes : record.code = record'.code := by
    by_cases herror : record.id = .sdkError
    · rw [errorCode?, errorCode?, ← hid, if_pos herror, if_pos herror] at hcode
      exact Option.some.inj hcode
    · exact (hzero.resolve_left herror).trans (hzero'.resolve_left (hid ▸ herror)).symm
  obtain ⟨id, pc, info, code⟩ := record
  cases hid
  cases hpc
  cases hinfo
  cases hcodes
  rfl

end FaultRecord

/-! ## Reports of records -/

namespace Report

theorem ofRecord?_eq (record : FaultRecord) :
    ofRecord? (some record) =
      header record.id record.pc record.info ++
        .faultType (record.id.name?.getD "unknown") :: errorCode record.errorCode? := rfl

theorem faultType_inj {name : String} {rest rest' : Report}
    (h : chars (.faultType name :: rest) = chars (.faultType name :: rest')) : chars rest = chars rest' := by
  rw [chars_cons, chars_cons] at h
  exact List.tail_eq_of_cons_eq (List.tail_eq_of_cons_eq (List.append_cancel_left (List.append_cancel_left h)))

theorem ofRecord?_inj {record record' : FaultRecord}
    (h : chars (ofRecord? (some record)) = chars (ofRecord? (some record'))) :
    record.id = record'.id ∧ record.pc = record'.pc ∧ record.info = record'.info ∧
      record.errorCode? = record'.errorCode? := by
  rw [ofRecord?_eq, ofRecord?_eq] at h
  obtain ⟨hid, hpc, hinfo, hrest⟩ := header_inj h
  rw [hid] at hrest
  exact ⟨hid, hpc, hinfo, errorCodes_inj (faultType_inj hrest)⟩

theorem ofRecord?_none_ne (record : FaultRecord) : chars (ofRecord? none) ≠ chars (ofRecord? (some record)) := by
  intro h
  have hfirst := congrArg List.head? h
  simp [ofRecord?, header, chars_cons, Line.label] at hfirst

/-- What a writer with room without end gets of the report of a record, or of the notice that there is none. -/
def recordBytes (record : Option FaultRecord) : List UInt8 :=
  (({} : Writer).writeAll (ofRecord? record).pieces).2.written

theorem recordBytes_eq (record : Option FaultRecord) :
    recordBytes record = Text.Utf8.encode (ofRecord? record).text := by
  rw [recordBytes, Writer.writeAll_eq, text, Text.Utf8.encode_join]
  rfl

theorem recordBytes_inj {record record' : Option FaultRecord} (h : recordBytes record = recordBytes record') :
    record = none ∧ record' = none ∨
      ∃ r r', record = some r ∧ record' = some r' ∧
        r.id = r'.id ∧ r.pc = r'.pc ∧ r.info = r'.info ∧ r.errorCode? = r'.errorCode? := by
  rw [recordBytes_eq, recordBytes_eq] at h
  have hchars := congrArg String.toList (Text.Utf8.encode_injective h)
  cases record with
  | none =>
    cases record' with
    | none => exact .inl ⟨rfl, rfl⟩
    | some r' => exact absurd hchars (ofRecord?_none_ne r')
  | some r =>
    cases record' with
    | none => exact absurd hchars.symm (ofRecord?_none_ne r)
    | some r' => exact .inr ⟨r, r', rfl, rfl, ofRecord?_inj hchars⟩

/-- **The report of a record tells whether there is one, and all of it but for a code that is not that of an error. A
captured record has no such code but zero, so that its report tells all of it.** -/
theorem recordBytes_tell :
    (∀ record record' : Option FaultRecord, recordBytes record = recordBytes record' ↔
      record = none ∧ record' = none ∨
        ∃ r r', record = some r ∧ record' = some r' ∧
          r.id = r'.id ∧ r.pc = r'.pc ∧ r.info = r'.info ∧ r.errorCode? = r'.errorCode?) ∧
    (∀ (address address' : UInt64) (pc pc' : UInt32) (event event' : FaultEvent),
      recordBytes (some (.capture address pc event)) = recordBytes (some (.capture address' pc' event')) ↔
        FaultRecord.capture address pc event = FaultRecord.capture address' pc' event') ∧
    ∀ (address : UInt64) (pc : UInt32) (event : FaultEvent),
      (FaultRecord.capture address pc event).id = .sdkError ∨ (FaultRecord.capture address pc event).code = ⟨0⟩ := by
  refine ⟨fun record record' => ⟨recordBytes_inj, ?_⟩, fun address address' pc pc' event event' => ⟨?_, ?_⟩,
    FaultRecord.code_capture⟩
  · rintro (⟨rfl, rfl⟩ | ⟨r, r', rfl, rfl, hid, hpc, hinfo, hcode⟩)
    · rfl
    · rw [recordBytes_eq, recordBytes_eq, ofRecord?_eq, ofRecord?_eq, hid, hpc, hinfo, hcode]
  · intro h
    rcases recordBytes_inj h with ⟨hnone, -⟩ | ⟨r, r', hr, hr', hid, hpc, hinfo, hcode⟩
    · cases hnone
    · cases hr
      cases hr'
      exact FaultRecord.eq_of_errorCode? hid hpc hinfo hcode (FaultRecord.code_capture _ _ _)
        (FaultRecord.code_capture _ _ _)
  · exact fun h => by rw [h]

/-- A code that is not that of an error is not shown. -/
example : recordBytes (some ⟨⟨9⟩, 1, 2, ⟨3⟩⟩) = recordBytes (some ⟨⟨9⟩, 1, 2, ⟨4⟩⟩) := by decide +kernel

end Report
end PostMortem
