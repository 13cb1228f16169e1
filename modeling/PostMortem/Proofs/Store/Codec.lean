import Mathlib
import PostMortem.Store.Image

/-! # Writing and reading the fields of an image

Little-endian numbers read back as they were written, and a block of byte stores is seen where it was written and
nowhere else. So each field of an image reads back after a whole save, and a whole clear leaves nothing but zeros.

* `LittleEndian.decode_encode`, `LittleEndian.encode_decode`: numbers below the width and rows of bytes correspond.
* `Image.slice_applyAll_storesFrom`, `Image.slice_applyAll_of_disjoint`: a block of stores, read at its place and
  elsewhere.
* `Image.decode?_save`, `Image.decode?_clear`: what is read after whole operations.
-/
set_option autoImplicit false

namespace PostMortem.LittleEndian

/-! ## Numbers -/

@[simp] theorem length_encode (width n : Nat) : (encode width n).length = width := by
  induction width generalizing n with
  | zero => rfl
  | succ width ih => simp [encode, ih]

theorem decode_encode (width n : Nat) (h : n < 256 ^ width) : decode (encode width n) = n := by
  induction width generalizing n with
  | zero =>
    have hn : n = 0 := by simpa using h
    simp [encode, decode, hn]
  | succ width ih =>
    have hdiv : n / 256 < 256 ^ width := by
      apply Nat.div_lt_of_lt_mul
      rwa [pow_succ, mul_comm] at h
    have hbyte : (UInt8.ofNat (n % 256)).toNat = n % 256 := by
      rw [UInt8.toNat_ofNat']
      omega
    rw [encode, decode, ih _ hdiv, hbyte]
    omega

theorem decode_lt (bytes : List UInt8) : decode bytes < 256 ^ bytes.length := by
  induction bytes with
  | nil => simp [decode]
  | cons b bytes ih =>
    have hb := b.toNat_lt
    rw [decode, List.length_cons, pow_succ]
    omega

theorem encode_decode (bytes : List UInt8) : encode bytes.length (decode bytes) = bytes := by
  induction bytes with
  | nil => rfl
  | cons b bytes ih =>
    have hb := b.toNat_lt
    have hmod : (b.toNat + 256 * decode bytes) % 256 = b.toNat := by omega
    have hdiv : (b.toNat + 256 * decode bytes) / 256 = decode bytes := by omega
    rw [List.length_cons, decode, encode, hmod, hdiv, ih, UInt8.ofNat_toNat]

end PostMortem.LittleEndian

namespace PostMortem.Image

/-! ## Programs -/

@[simp] theorem length_apply (image : Image) (store : ByteStore) : (image.apply store).length = image.length := by
  simp [apply]

@[simp] theorem length_applyAll (image : Image) (stores : List ByteStore) :
    (image.applyAll stores).length = image.length := by
  induction stores generalizing image with
  | nil => rfl
  | cons store stores ih => rw [applyAll, List.foldl_cons, ← applyAll, ih, length_apply]

theorem applyAll_append (image : Image) (first second : List ByteStore) :
    image.applyAll (first ++ second) = (image.applyAll first).applyAll second := List.foldl_append

@[simp] theorem length_storesFrom (offset : Nat) (bytes : List UInt8) :
    (storesFrom offset bytes).length = bytes.length := by
  induction bytes generalizing offset with
  | nil => rfl
  | cons b bytes ih => simp [storesFrom, ih]

theorem take_storesFrom (offset count : Nat) (bytes : List UInt8) :
    (storesFrom offset bytes).take count = storesFrom offset (bytes.take count) := by
  induction bytes generalizing offset count with
  | nil => simp [storesFrom]
  | cons b bytes ih =>
    cases count with
    | zero => simp [storesFrom]
    | succ count => simp [storesFrom, ih]

theorem mem_storesFrom {offset : Nat} {bytes : List UInt8} {store : ByteStore}
    (h : store ∈ storesFrom offset bytes) : offset ≤ store.offset ∧ store.offset < offset + bytes.length := by
  induction bytes generalizing offset with
  | nil => simp [storesFrom] at h
  | cons b bytes ih =>
    rcases List.mem_cons.mp h with rfl | h
    · simp
    · have := ih h
      simp only [List.length_cons]
      omega

/-! ## Single bytes -/

theorem getElem?_applyAll_of_ne (image : Image) (stores : List ByteStore) (i : Nat)
    (h : ∀ store ∈ stores, store.offset ≠ i) : (image.applyAll stores)[i]? = image[i]? := by
  induction stores generalizing image with
  | nil => rfl
  | cons store stores ih =>
    have hrest := ih (image.apply store) fun other hother => h other (List.mem_cons_of_mem _ hother)
    rw [applyAll, List.foldl_cons, ← applyAll, hrest, apply, List.getElem?_set_ne (h store List.mem_cons_self)]

theorem getElem?_applyAll_storesFrom (image : Image) (offset : Nat) (bytes : List UInt8) (i : Nat)
    (hi : i < bytes.length) (hfit : offset + bytes.length ≤ image.length) :
    (image.applyAll (storesFrom offset bytes))[offset + i]? = bytes[i]? := by
  induction bytes generalizing image offset i with
  | nil => simp at hi
  | cons b bytes ih =>
    rw [List.length_cons] at hi hfit
    rw [storesFrom, applyAll, List.foldl_cons, ← applyAll]
    cases i with
    | zero =>
      -- the first byte is stored first, and the stores behind it go to later offsets
      have hlater : ∀ store ∈ storesFrom (offset + 1) bytes, store.offset ≠ offset := by
        intro store hstore
        have := (mem_storesFrom hstore).1
        omega
      have hin : offset < image.length := by omega
      change ((image.apply ⟨offset, b⟩).applyAll (storesFrom (offset + 1) bytes))[offset]? = some b
      rw [getElem?_applyAll_of_ne _ _ _ hlater, apply, List.getElem?_set_self hin]
    | succ i =>
      have hrest := ih (image.apply ⟨offset, b⟩) (offset + 1) i (by omega) (by rw [length_apply]; omega)
      rw [show offset + (i + 1) = offset + 1 + i by omega, hrest, List.getElem?_cons_succ]

/-! ## Blocks -/

theorem length_slice (image : Image) (offset width : Nat) (h : offset + width ≤ image.length) :
    (image.slice offset width).length = width := by
  rw [slice, List.length_take, List.length_drop]
  omega

theorem getElem?_slice (image : Image) (offset width i : Nat) (hi : i < width) :
    (image.slice offset width)[i]? = image[offset + i]? := by
  rw [slice, List.getElem?_take_of_lt hi, List.getElem?_drop]

theorem slice_applyAll_storesFrom (image : Image) (offset : Nat) (bytes : List UInt8)
    (hfit : offset + bytes.length ≤ image.length) :
    (image.applyAll (storesFrom offset bytes)).slice offset bytes.length = bytes := by
  apply List.ext_getElem?
  intro i
  by_cases hi : i < bytes.length
  · rw [getElem?_slice _ _ _ _ hi, getElem?_applyAll_storesFrom _ _ _ _ hi hfit]
  · have hlength := length_slice (image.applyAll (storesFrom offset bytes)) offset bytes.length (by simpa using hfit)
    rw [List.getElem?_eq_none (by omega), List.getElem?_eq_none (by omega)]

theorem slice_applyAll_of_disjoint (image : Image) (stores : List ByteStore) (offset width : Nat)
    (h : ∀ store ∈ stores, store.offset < offset ∨ offset + width ≤ store.offset) :
    (image.applyAll stores).slice offset width = image.slice offset width := by
  apply List.ext_getElem?
  intro i
  by_cases hi : i < width
  · rw [getElem?_slice _ _ _ _ hi, getElem?_slice _ _ _ _ hi, getElem?_applyAll_of_ne]
    intro store hstore
    rcases h store hstore with h | h <;> omega
  · rw [slice, slice, List.getElem?_take_eq_none (by omega), List.getElem?_take_eq_none (by omega)]

/-! ## Words -/

theorem slice_wordStores (image : Image) (offset : Nat) (word : UInt32) (hfit : offset + 4 ≤ image.length) :
    (image.applyAll (wordStores offset word)).slice offset 4 = LittleEndian.encode 4 word.toNat := by
  have h := slice_applyAll_storesFrom image offset (LittleEndian.encode 4 word.toNat) (by simpa using hfit)
  rwa [LittleEndian.length_encode] at h

theorem slice_longStores (image : Image) (offset : Nat) (word : UInt64) (hfit : offset + 8 ≤ image.length) :
    (image.applyAll (longStores offset word)).slice offset 8 = LittleEndian.encode 8 word.toNat := by
  have h := slice_applyAll_storesFrom image offset (LittleEndian.encode 8 word.toNat) (by simpa using hfit)
  rwa [LittleEndian.length_encode] at h

theorem mem_wordStores {offset : Nat} {word : UInt32} {store : ByteStore} (h : store ∈ wordStores offset word) :
    offset ≤ store.offset ∧ store.offset < offset + 4 := by
  have := mem_storesFrom h
  rwa [LittleEndian.length_encode] at this

theorem mem_longStores {offset : Nat} {word : UInt64} {store : ByteStore} (h : store ∈ longStores offset word) :
    offset ≤ store.offset ∧ store.offset < offset + 8 := by
  have := mem_storesFrom h
  rwa [LittleEndian.length_encode] at this

theorem word_of_slice {image : Image} {offset : Nat} {word : UInt32}
    (h : image.slice offset 4 = LittleEndian.encode 4 word.toNat) : image.word offset = word := by
  rw [Image.word, h, LittleEndian.decode_encode _ _ word.toNat_lt, UInt32.ofNat_toNat]

theorem long_of_slice {image : Image} {offset : Nat} {word : UInt64}
    (h : image.slice offset 8 = LittleEndian.encode 8 word.toNat) : image.long offset = word := by
  rw [Image.long, h, LittleEndian.decode_encode _ _ word.toNat_lt, UInt64.ofNat_toNat]

/-- A word stands for four bytes only: the ones that storing it would put there. -/
theorem slice_of_word {image : Image} {offset : Nat} {word : UInt32} (hfit : offset + 4 ≤ image.length)
    (h : image.word offset = word) : image.slice offset 4 = LittleEndian.encode 4 word.toNat := by
  have hlength := length_slice image offset 4 hfit
  have hlt := LittleEndian.decode_lt (image.slice offset 4)
  rw [hlength] at hlt
  have hnat : word.toNat = LittleEndian.decode (image.slice offset 4) := by
    rw [← h, Image.word, UInt32.toNat_ofNat']
    exact Nat.mod_eq_of_lt hlt
  have hback := LittleEndian.encode_decode (image.slice offset 4)
  rw [hnat, ← hlength]
  rw [hlength] at hback ⊢
  exact hback.symm

/-! ## Whole operations -/

/-- The stores of a save between the two that change the magic word. -/
def fieldStores (record : FaultRecord) : List ByteStore :=
  wordStores idOffset record.id.raw ++ wordStores pcOffset record.pc ++ wordStores codeOffset record.code.raw ++
    longStores infoOffset record.info

theorem saveStores_eq (record : FaultRecord) :
    saveStores record = wordStores magicOffset 0 ++ fieldStores record ++ wordStores magicOffset magic := by
  simp only [saveStores, fieldStores, List.append_assoc]

theorem mem_fieldStores {record : FaultRecord} {store : ByteStore} (h : store ∈ fieldStores record) :
    4 ≤ store.offset ∧ store.offset < 24 := by
  simp only [fieldStores, List.mem_append] at h
  rcases h with ((h | h) | h) | h
  · have := mem_wordStores h
    simp only [idOffset] at this
    omega
  · have := mem_wordStores h
    simp only [pcOffset] at this
    omega
  · have := mem_wordStores h
    simp only [codeOffset] at this
    omega
  · have := mem_longStores h
    simp only [infoOffset] at this
    omega

theorem word_fieldStores {image : Image} (hfit : 24 ≤ image.length) (record : FaultRecord) :
    (image.applyAll (fieldStores record)).word idOffset = record.id.raw ∧
      (image.applyAll (fieldStores record)).word pcOffset = record.pc ∧
      (image.applyAll (fieldStores record)).word codeOffset = record.code.raw ∧
      (image.applyAll (fieldStores record)).long infoOffset = record.info := by
  simp only [fieldStores, applyAll_append]
  -- each field is read through the stores of the fields behind it
  refine ⟨word_of_slice ?_, word_of_slice ?_, word_of_slice ?_, long_of_slice ?_⟩
  · rw [slice_applyAll_of_disjoint, slice_applyAll_of_disjoint, slice_applyAll_of_disjoint, slice_wordStores]
    · simp only [idOffset]; omega
    · intro store h; have := mem_wordStores h; simp only [idOffset, pcOffset] at this ⊢; omega
    · intro store h; have := mem_wordStores h; simp only [idOffset, codeOffset] at this ⊢; omega
    · intro store h; have := mem_longStores h; simp only [idOffset, infoOffset] at this ⊢; omega
  · rw [slice_applyAll_of_disjoint, slice_applyAll_of_disjoint, slice_wordStores]
    · simp only [pcOffset, length_applyAll]; omega
    · intro store h; have := mem_wordStores h; simp only [pcOffset, codeOffset] at this ⊢; omega
    · intro store h; have := mem_longStores h; simp only [pcOffset, infoOffset] at this ⊢; omega
  · rw [slice_applyAll_of_disjoint, slice_wordStores]
    · simp only [codeOffset, length_applyAll]; omega
    · intro store h; have := mem_longStores h; simp only [codeOffset, infoOffset] at this ⊢; omega
  · rw [slice_longStores]
    simp only [infoOffset, length_applyAll]; omega

theorem decode?_of_words {image : Image} {record : FaultRecord} (hmagic : image.word magicOffset = magic)
    (hid : image.word idOffset = record.id.raw) (hpc : image.word pcOffset = record.pc)
    (hcode : image.word codeOffset = record.code.raw) (hinfo : image.long infoOffset = record.info) :
    image.decode? = some record := by
  rw [decode?, if_pos hmagic, hid, hpc, hcode, hinfo]

/-- **A whole save reads back.** -/
theorem decode?_save {image : Image} (h : image.length = size) (record : FaultRecord) :
    (image.save record).decode? = some record := by
  rw [save, saveStores_eq, applyAll_append, applyAll_append]
  generalize hcleared : image.applyAll (wordStores magicOffset 0) = cleared
  have hlength : cleared.length = 32 := by rw [← hcleared, length_applyAll, h, size]
  obtain ⟨hid, hpc, hcode, hinfo⟩ := word_fieldStores (by omega : 24 ≤ cleared.length) record
  generalize hfields : cleared.applyAll (fieldStores record) = fields at *
  have hfieldsLength : fields.length = 32 := by rw [← hfields, length_applyAll, hlength]
  -- the magic word goes to the bytes in front of all fields
  have hkeep : ∀ offset width, 4 ≤ offset →
      (fields.applyAll (wordStores magicOffset magic)).slice offset width = fields.slice offset width := by
    intro offset width hoffset
    apply slice_applyAll_of_disjoint
    intro store hstore
    have := mem_wordStores hstore
    simp only [magicOffset] at this
    omega
  apply decode?_of_words
  · exact word_of_slice (slice_wordStores _ _ _ (by simp only [magicOffset]; omega))
  · rw [word, hkeep _ _ (by decide), ← word, hid]
  · rw [word, hkeep _ _ (by decide), ← word, hpc]
  · rw [word, hkeep _ _ (by decide), ← word, hcode]
  · rw [long, hkeep _ _ (by decide), ← long, hinfo]

theorem clear_eq_blank {image : Image} (h : image.length = size) : image.clear = blank := by
  have hblank : blank.length = size := List.length_replicate
  have hslice := slice_applyAll_storesFrom image 0 blank (by omega)
  have hlength : (image.applyAll (storesFrom 0 blank)).length ≤ blank.length := by rw [length_applyAll, h, hblank]
  rw [slice, List.drop_zero, List.take_of_length_le hlength] at hslice
  rw [clear, clearStores, hslice]

theorem decode?_clear {image : Image} (h : image.length = size) : image.clear.decode? = none := by
  rw [clear_eq_blank h]
  decide

@[simp] theorem length_save (image : Image) (record : FaultRecord) : (image.save record).length = image.length :=
  length_applyAll ..

@[simp] theorem length_clear (image : Image) : image.clear.length = image.length := length_applyAll ..

end PostMortem.Image
