import PostMortem.Proofs.Store.Codec

/-! # The layout of a record in a file, byte by byte

A save puts its record into the first 24 bytes of an image, without a gap and without regard to what was there, and these
bytes are the only ones that read back as the record. So the bytes of a record and the record determine each other, and
all laws of saving and reading follow from where the bytes stand.

* `Image.number`: the number that some bytes of an image stand for.
* `Image.layout`: the 24 bytes of a record.
* `Image.decode?_eq_some_iff`, `Image.take_of_decode?`: when an image reads back as a record, and what it begins with.
* `Image.save_eq`: what a save comes to.
-/
set_option autoImplicit false

namespace PostMortem

theorem LittleEndian.decode_eq_sum (bytes : List UInt8) :
    decode bytes = ∑ i ∈ Finset.range bytes.length, (bytes.getD i 0).toNat * 256 ^ i := by
  induction bytes with
  | nil => rfl
  | cons b bytes ih =>
    rw [decode, ih, List.length_cons, Finset.sum_range_succ', Finset.mul_sum]
    have hterm : ∀ i, ((b :: bytes).getD (i + 1) 0).toNat * 256 ^ (i + 1) =
        256 * ((bytes.getD i 0).toNat * 256 ^ i) := by
      intro i
      rw [List.getD_cons_succ, pow_succ]
      ring
    simp only [hterm, List.getD_cons_zero, pow_zero, mul_one]
    exact Nat.add_comm _ _

namespace Image

variable {image : Image} {record : FaultRecord}

/-- The number that the bytes from an offset on stand for, the least significant first. -/
def number (image : Image) (offset width : Nat) : Nat :=
  ∑ i ∈ Finset.range width, (image.getD (offset + i) 0).toNat * 256 ^ i

/-- The 24 bytes of a record: the letters FLT1 and the four fields. -/
def layout (record : FaultRecord) : List UInt8 :=
  [0x46, 0x4C, 0x54, 0x31] ++ LittleEndian.encode 4 record.id.raw.toNat ++ LittleEndian.encode 4 record.pc.toNat ++
    LittleEndian.encode 4 record.code.raw.toNat ++ LittleEndian.encode 8 record.info.toNat

/-! ## Numbers in an image -/

theorem decode_slice {offset width : Nat} (hfit : offset + width ≤ image.length) :
    LittleEndian.decode (image.slice offset width) = image.number offset width := by
  rw [LittleEndian.decode_eq_sum, length_slice _ _ _ hfit, number]
  apply Finset.sum_congr rfl
  intro i hi
  have hbyte := getElem?_slice image offset width i (Finset.mem_range.mp hi)
  rw [List.getD_eq_getElem?_getD, List.getD_eq_getElem?_getD, hbyte]

theorem toNat_word {offset : Nat} (hfit : offset + 4 ≤ image.length) :
    (image.word offset).toNat = image.number offset 4 := by
  have hlt := LittleEndian.decode_lt (image.slice offset 4)
  rw [length_slice _ _ _ hfit] at hlt
  rw [word, UInt32.toNat_ofNat', ← decode_slice hfit]
  exact Nat.mod_eq_of_lt hlt

theorem toNat_long {offset : Nat} (hfit : offset + 8 ≤ image.length) :
    (image.long offset).toNat = image.number offset 8 := by
  have hlt := LittleEndian.decode_lt (image.slice offset 8)
  rw [length_slice _ _ _ hfit] at hlt
  rw [long, UInt64.toNat_ofNat', ← decode_slice hfit]
  exact Nat.mod_eq_of_lt hlt

theorem slice_of_long {offset : Nat} {word : UInt64} (hfit : offset + 8 ≤ image.length)
    (h : image.long offset = word) : image.slice offset 8 = LittleEndian.encode 8 word.toNat := by
  have hback := LittleEndian.encode_decode (image.slice offset 8)
  rw [length_slice _ _ _ hfit, decode_slice hfit, ← toNat_long hfit, h] at hback
  exact hback.symm

theorem word_magicOffset_iff (hfit : 4 ≤ image.length) :
    image.word magicOffset = magic ↔ image.take 4 = [0x46, 0x4C, 0x54, 0x31] := by
  have hletters : LittleEndian.encode 4 magic.toNat = [0x46, 0x4C, 0x54, 0x31] := by decide
  have hslice : image.slice magicOffset 4 = image.take 4 := rfl
  rw [← hletters, ← hslice]
  exact ⟨slice_of_word hfit, word_of_slice⟩

/-! ## Records in an image -/

theorem decode?_eq_some_iff_words :
    image.decode? = some record ↔ image.word magicOffset = magic ∧ image.word idOffset = record.id.raw ∧
      image.word pcOffset = record.pc ∧ image.word codeOffset = record.code.raw ∧
      image.long infoOffset = record.info := by
  constructor
  · intro h
    unfold decode? at h
    split at h
    · rename_i hmagic
      cases h
      exact ⟨hmagic, rfl, rfl, rfl, rfl⟩
    · cases h
  · rintro ⟨hmagic, hid, hpc, hcode, hinfo⟩
    exact decode?_of_words hmagic hid hpc hcode hinfo

/-- An image reads back as a record if its bytes stand for the words of the record. -/
theorem decode?_eq_some_iff (h : 24 ≤ image.length) :
    image.decode? = some record ↔ image.take 4 = [0x46, 0x4C, 0x54, 0x31] ∧
      image.number 4 4 = record.id.raw.toNat ∧ image.number 8 4 = record.pc.toNat ∧
      image.number 12 4 = record.code.raw.toNat ∧ image.number 16 8 = record.info.toNat := by
  have hid : (image.word idOffset).toNat = image.number 4 4 := toNat_word (by simp only [idOffset]; omega)
  have hpc : (image.word pcOffset).toNat = image.number 8 4 := toNat_word (by simp only [pcOffset]; omega)
  have hcode : (image.word codeOffset).toNat = image.number 12 4 := toNat_word (by simp only [codeOffset]; omega)
  have hinfo : (image.long infoOffset).toNat = image.number 16 8 := toNat_long (by simp only [infoOffset]; omega)
  rw [decode?_eq_some_iff_words, word_magicOffset_iff (by omega), ← hid, ← hpc, ← hcode, ← hinfo, UInt32.toNat_inj,
    UInt32.toNat_inj, UInt32.toNat_inj, UInt64.toNat_inj]

theorem slice_append_drop (image : Image) (offset width : Nat) :
    image.slice offset width ++ image.drop (offset + width) = image.drop offset := by
  rw [slice, ← List.drop_drop, List.take_append_drop]

theorem take_eq_slices (image : Image) :
    image.take 24 = image.take 4 ++ image.slice 4 4 ++ image.slice 8 4 ++ image.slice 12 4 ++ image.slice 16 8 := by
  have hinfo : image.slice 16 8 ++ image.drop 24 = image.drop 16 := slice_append_drop image 16 8
  have hcode : image.slice 12 4 ++ image.drop 16 = image.drop 12 := slice_append_drop image 12 4
  have hpc : image.slice 8 4 ++ image.drop 12 = image.drop 8 := slice_append_drop image 8 4
  have hid : image.slice 4 4 ++ image.drop 8 = image.drop 4 := slice_append_drop image 4 4
  have hall : image.take 4 ++ image.slice 4 4 ++ image.slice 8 4 ++ image.slice 12 4 ++ image.slice 16 8 ++
      image.drop 24 = image := by
    simp only [List.append_assoc, hinfo, hcode, hpc, hid, List.take_append_drop]
  have hsplit := (List.take_append_drop 24 image).trans hall.symm
  exact List.append_cancel_right hsplit

/-- No other bytes than those of its layout read back as a record. -/
theorem take_of_decode? (h : 24 ≤ image.length) (hdecode : image.decode? = some record) :
    image.take 24 = layout record := by
  obtain ⟨hmagic, hid, hpc, hcode, hinfo⟩ := decode?_eq_some_iff_words.mp hdecode
  have hletters := (word_magicOffset_iff (by omega)).mp hmagic
  have hidBytes := slice_of_word (by simp only [idOffset]; omega) hid
  have hpcBytes := slice_of_word (by simp only [pcOffset]; omega) hpc
  have hcodeBytes := slice_of_word (by simp only [codeOffset]; omega) hcode
  have hinfoBytes := slice_of_long (by simp only [infoOffset]; omega) hinfo
  rw [idOffset] at hidBytes
  rw [pcOffset] at hpcBytes
  rw [codeOffset] at hcodeBytes
  rw [infoOffset] at hinfoBytes
  rw [take_eq_slices, hletters, hidBytes, hpcBytes, hcodeBytes, hinfoBytes, layout]

/-! ## Saves -/

theorem saveStores_below {store : ByteStore} (h : store ∈ saveStores record) : store.offset < 24 := by
  rw [saveStores_eq] at h
  rcases List.mem_append.mp h with h | h
  · rcases List.mem_append.mp h with h | h
    · have := mem_wordStores h
      simp only [magicOffset] at this
      omega
    · exact (mem_fieldStores h).2
  · have := mem_wordStores h
    simp only [magicOffset] at this
    omega

theorem drop_save (image : Image) (record : FaultRecord) : (image.save record).drop 24 = image.drop 24 := by
  apply List.ext_getElem?
  intro i
  rw [List.getElem?_drop, List.getElem?_drop, save, getElem?_applyAll_of_ne]
  intro store hstore
  have := saveStores_below hstore
  omega

/-- A save replaces the first 24 bytes, whatever they are, by the layout of its record. -/
theorem save_eq (h : image.length = size) (record : FaultRecord) :
    image.save record = layout record ++ image.drop 24 := by
  have hlength : (image.save record).length = 32 := (length_save image record).trans h
  have hlayout := take_of_decode? (by omega) (decode?_save h record)
  rw [← List.take_append_drop 24 (image.save record), hlayout, drop_save]

/-- **Saving and reading obey the laws of a codec.** What is saved reads back, from these 24 bytes and no others. To save
what is there changes nothing, a save undoes the one before it, and other records have other bytes. -/
theorem codec_lawful {image : Image} (h : image.length = 32) (record other : FaultRecord) :
    ((image.save record).length = 32 ∧ (image.save record).decode? = some record ∧
        (image.save record).drop 24 = image.drop 24) ∧
      (image.decode? = some record ↔ image.take 4 = [0x46, 0x4C, 0x54, 0x31] ∧
        image.number 4 4 = record.id.raw.toNat ∧ image.number 8 4 = record.pc.toNat ∧
        image.number 12 4 = record.code.raw.toNat ∧ image.number 16 8 = record.info.toNat) ∧
      (image.decode? = some record → image.save record = image) ∧
      (image.save other).save record = image.save record ∧
      (record ≠ other → image.save record ≠ image.save other) := by
  refine ⟨⟨(length_save image record).trans h, decode?_save h record, drop_save image record⟩,
    decode?_eq_some_iff (by omega), ?_, ?_, ?_⟩
  · intro hdecode
    rw [save_eq h, ← take_of_decode? (by omega) hdecode, List.take_append_drop]
  · rw [save_eq ((length_save image other).trans h), drop_save, save_eq h]
  · intro hne heq
    have hsame : some record = some other := by
      rw [← decode?_save h record, heq, decode?_save h other]
    exact hne (Option.some.inj hsame)

/-- A file full of the first letter, with one record saved over another one that has the greatest words. -/
theorem codec_lawful_over_letters :
    let image : Image := List.replicate 32 0x46
    let record : FaultRecord := ⟨.sdkError, 0x21F40, 0x20003FF0, ⟨0x0B⟩⟩
    let greatest : FaultRecord := ⟨⟨0xFFFFFFFF⟩, 0xFFFFFFFF, 0xFFFFFFFFFFFFFFFF, ⟨0xFFFFFFFF⟩⟩
    image.length = 32 ∧ record ≠ greatest ∧ image.decode? = none ∧
      (image.save greatest).decode? = some greatest ∧ (image.save greatest).save record = image.save record ∧
      image.save record ≠ image.save greatest ∧ (image.save record).save record = image.save record ∧
      (image.save record).number 8 4 = 0x21F40 := by
  intro image record greatest
  have hlength : image.length = 32 := by decide
  have hne : record ≠ greatest := by decide
  obtain ⟨⟨hsaved, hback, -⟩, -, -, hover, hother⟩ := codec_lawful hlength record greatest
  obtain ⟨⟨-, hgreatest, -⟩, -⟩ := codec_lawful hlength greatest record
  obtain ⟨-, hnumbers, hagain, -⟩ := codec_lawful hsaved record record
  obtain ⟨-, -, hpc, -⟩ := hnumbers.mp hback
  exact ⟨hlength, hne, by decide, hgreatest, hover, hother hne, hagain hback, hpc⟩

end Image
end PostMortem
