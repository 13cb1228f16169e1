import PostMortem.Proofs.Store.Codec
import PostMortem.Store.Region

/-! # Operations cut off by resets

A reset can cut a save or a clear off after any number of its stores, and the next operations work on what is left.
Record files and retained regions share what makes this harmless: the first store of every operation takes the record
that was there away, and no proper prefix of a save puts one back.

* `Medium`: a store of records whose operations are programs of single stores, `Medium.file` and `Medium.region`.
* `Medium.after`: what operations leave, each of which may have been cut off.
* `Medium.Atomic`: the four laws, proved for both media in `file_atomic` and `region_atomic`.
* `load_after_resets_iff`: the record that is found is that of the last operation with any effect, if this was a whole
  save, and the one from the start if no operation had any.
-/
set_option autoImplicit false

namespace PostMortem

/-! ## Media and attempts -/

/-- A store of records: states `σ`, single stores `ω`, the programs of the operations and the reading of a record. -/
structure Medium (σ ω : Type) where
  apply : σ → ω → σ
  saveStores : FaultRecord → List ω
  clearStores : List ω
  load? : σ → Option FaultRecord

/-- An operation that changes what a store holds. -/
inductive Operation
  | save (record : FaultRecord)
  | clear
deriving DecidableEq, Repr

/-- An operation that is cut off after a number of stores, or not at all if its program has no more than that. -/
structure Attempt where
  operation : Operation
  cut : Nat
deriving DecidableEq, Repr

namespace Medium

/-- Record files, store by store of a byte. -/
def file : Medium Image ByteStore := ⟨Image.apply, Image.saveStores, Image.clearStores, Image.decode?⟩

/-- Retained regions, store by store of a word. -/
def region : Medium Region WordStore := ⟨Region.apply, Region.saveStores, Region.clearStores, Region.read⟩

section
variable {σ ω : Type} (m : Medium σ ω)

/-- The whole program of an operation. -/
def program : Operation → List ω
  | .save record => m.saveStores record
  | .clear => m.clearStores

/-- The stores that were carried out. -/
def performed (attempt : Attempt) : List ω := (m.program attempt.operation).take attempt.cut

/-- Carries out stores one after the other. -/
def applyAll (state : σ) (stores : List ω) : σ := stores.foldl m.apply state

/-- What is left after attempts one after the other. -/
def after (state : σ) (attempts : List Attempt) : σ :=
  attempts.foldl (fun state attempt => m.applyAll state (m.performed attempt)) state

/-- The last attempt that carried out at least one store. -/
def lastEffective? (attempts : List Attempt) : Option Attempt :=
  (attempts.filter fun attempt => !(m.performed attempt).isEmpty).getLast?

/-- A record survives attempts if the last one with any effect was a whole save of it, or if none had an effect and it
was there before. -/
def Survives (initial : σ) (attempts : List Attempt) (record : FaultRecord) : Prop :=
  (∃ attempt, m.lastEffective? attempts = some attempt ∧ attempt.operation = .save record ∧
    m.performed attempt = m.program attempt.operation) ∨
  (m.lastEffective? attempts = none ∧ m.load? initial = some record)

/-- What a medium needs so that no reset shows a record that was not saved as a whole. -/
structure Atomic (Fit : σ → Prop) : Prop where
  fit_apply : ∀ state store, Fit state → Fit (m.apply state store)
  load?_save : ∀ state record, Fit state → m.load? (m.applyAll state (m.saveStores record)) = some record
  load?_cut_save : ∀ state record cut, Fit state → 0 < cut → cut < (m.saveStores record).length →
    m.load? (m.applyAll state ((m.saveStores record).take cut)) = none
  load?_begun_clear : ∀ state cut, Fit state → 0 < cut → m.load? (m.applyAll state (m.clearStores.take cut)) = none

/-! ## From the laws to all rows of attempts -/

theorem after_concat (state : σ) (attempts : List Attempt) (attempt : Attempt) :
    m.after state (attempts ++ [attempt]) = m.applyAll (m.after state attempts) (m.performed attempt) := by
  simp [after]

theorem lastEffective?_concat (attempts : List Attempt) (attempt : Attempt) :
    m.lastEffective? (attempts ++ [attempt]) =
      if m.performed attempt = [] then m.lastEffective? attempts else some attempt := by
  by_cases h : m.performed attempt = [] <;> simp [lastEffective?, List.filter_append, h]

variable {m} {Fit : σ → Prop}

theorem Atomic.fit_applyAll (hm : m.Atomic Fit) {state : σ} (h : Fit state) (stores : List ω) :
    Fit (m.applyAll state stores) := by
  induction stores generalizing state with
  | nil => exact h
  | cons store stores ih => exact ih (hm.fit_apply _ _ h)

theorem Atomic.fit_after (hm : m.Atomic Fit) {state : σ} (h : Fit state) (attempts : List Attempt) :
    Fit (m.after state attempts) := by
  induction attempts generalizing state with
  | nil => exact h
  | cons attempt attempts ih => exact ih (hm.fit_applyAll h _)

/-- One attempt that has an effect leaves the record of a whole save, and no record otherwise. -/
theorem Atomic.load?_performed (hm : m.Atomic Fit) {state : σ} (h : Fit state) {attempt : Attempt}
    (heffect : m.performed attempt ≠ []) (record : FaultRecord) :
    m.load? (m.applyAll state (m.performed attempt)) = some record ↔
      attempt.operation = .save record ∧ m.performed attempt = m.program attempt.operation := by
  obtain ⟨operation, cut⟩ := attempt
  have hcut : 0 < cut := by
    rcases Nat.eq_zero_or_pos cut with rfl | hcut
    · simp [performed] at heffect
    · exact hcut
  cases operation with
  | clear =>
    have hnone := hm.load?_begun_clear state cut h hcut
    simp only [performed, program] at hnone ⊢
    simp [hnone]
  | save saved =>
    simp only [performed, program, Operation.save.injEq]
    by_cases hwhole : cut < (m.saveStores saved).length
    · have hshort : (m.saveStores saved).take cut ≠ m.saveStores saved := by
        intro heq
        have := congrArg List.length heq
        rw [List.length_take] at this
        omega
      rw [hm.load?_cut_save state saved cut h hcut hwhole]
      simp [hshort]
    · rw [List.take_of_length_le (by omega), hm.load?_save state saved h]
      simp

theorem Atomic.load?_after (hm : m.Atomic Fit) {initial : σ} (h : Fit initial) (attempts : List Attempt)
    (record : FaultRecord) :
    m.load? (m.after initial attempts) = some record ↔ m.Survives initial attempts record := by
  induction attempts using List.reverseRecOn with
  | nil => simp [after, Survives, lastEffective?]
  | append_singleton attempts attempt ih =>
    rw [after_concat, Survives, lastEffective?_concat]
    by_cases heffect : m.performed attempt = []
    · rw [heffect, if_pos rfl]
      exact ih
    · rw [hm.load?_performed (hm.fit_after h attempts) heffect, if_neg heffect]
      simp

end
end Medium

/-! ## Record files -/

namespace Image

/-- The magic word is present only if both its outer bytes are. -/
theorem bytes_of_word_magic {image : Image} (hfit : 4 ≤ image.length) (h : image.word magicOffset = magic) :
    image[0]? = some 0x46 ∧ image[3]? = some 0x31 := by
  have hslice : image.slice 0 4 = LittleEndian.encode 4 magic.toNat := slice_of_word hfit h
  have hbytes : ∀ i < 4, image[i]? = (LittleEndian.encode 4 magic.toNat)[i]? := by
    intro i hi
    rw [← hslice, getElem?_slice _ _ _ _ hi, Nat.zero_add]
  exact ⟨hbytes 0 (by decide), hbytes 3 (by decide)⟩

theorem length_fieldStores (record : FaultRecord) : (fieldStores record).length = 20 := by
  simp [fieldStores, wordStores, longStores]

theorem length_saveStores (record : FaultRecord) : (saveStores record).length = 28 := by
  simp [saveStores_eq, length_fieldStores, wordStores]

/-- A save that is cut off: part of the zero word, of the fields, and of the magic word. -/
theorem take_saveStores (record : FaultRecord) (cut : Nat) :
    (saveStores record).take cut =
      storesFrom 0 ((LittleEndian.encode 4 0).take cut) ++ (fieldStores record).take (cut - 4) ++
        storesFrom 0 ((LittleEndian.encode 4 magic.toNat).take (cut - 24)) := by
  rw [saveStores_eq, List.take_append, List.take_append, wordStores, wordStores, take_storesFrom, take_storesFrom]
  simp [length_fieldStores, magicOffset]

theorem decode?_cut_save {image : Image} (hfit : image.length = size) (record : FaultRecord) {cut : Nat}
    (hpos : 0 < cut) (hcut : cut < 28) : (image.applyAll ((saveStores record).take cut)).decode? = none := by
  rw [decode?, if_neg]
  intro hword
  have hlength : image.length = 32 := hfit
  obtain ⟨hfirst, hlast⟩ := bytes_of_word_magic (by rw [length_applyAll]; omega) hword
  rw [take_saveStores, applyAll_append, applyAll_append] at hfirst hlast
  have hfields : ∀ (base : Image) (i : Nat), i < 4 →
      (base.applyAll ((fieldStores record).take (cut - 4)))[i]? = base[i]? := by
    intro base i hi
    apply getElem?_applyAll_of_ne
    intro store hstore
    have := mem_fieldStores (List.mem_of_mem_take hstore)
    omega
  by_cases hphase : cut ≤ 24
  · -- no byte of the magic word is back yet, and the first one has been zeroed
    have hnone : cut - 24 = 0 := by omega
    have hzero := getElem?_applyAll_storesFrom image 0 ((LittleEndian.encode 4 0).take cut) 0
      (by simp; omega) (by simp; omega)
    rw [hnone, List.take_zero, storesFrom] at hfirst
    rw [applyAll, List.foldl_nil, hfields _ _ (by decide), hzero, List.getElem?_take_of_lt hpos] at hfirst
    revert hfirst
    decide
  · -- the whole word has been zeroed, and its last byte is not back yet
    have hlater : ∀ store ∈ storesFrom 0 ((LittleEndian.encode 4 magic.toNat).take (cut - 24)), store.offset ≠ 3 := by
      intro store hstore
      have := mem_storesFrom hstore
      simp only [List.length_take, LittleEndian.length_encode] at this
      omega
    have hzero := getElem?_applyAll_storesFrom image 0 ((LittleEndian.encode 4 0).take cut) 3
      (by simp; omega) (by simp; omega)
    rw [getElem?_applyAll_of_ne _ _ _ hlater, hfields _ _ (by decide), hzero,
      List.getElem?_take_of_lt (by omega)] at hlast
    revert hlast
    decide

theorem decode?_begun_clear {image : Image} (hfit : image.length = size) {cut : Nat} (hpos : 0 < cut) :
    (image.applyAll (clearStores.take cut)).decode? = none := by
  rw [decode?, if_neg]
  intro hword
  have hlength : image.length = 32 := hfit
  have hblank : blank.length = 32 := List.length_replicate
  obtain ⟨hfirst, -⟩ := bytes_of_word_magic (by rw [length_applyAll]; omega) hword
  have hzero := getElem?_applyAll_storesFrom image 0 (blank.take cut) 0
    (by rw [List.length_take]; omega) (by rw [List.length_take]; omega)
  rw [clearStores, take_storesFrom, hzero, List.getElem?_take_of_lt hpos] at hfirst
  revert hfirst
  decide

end Image

namespace Medium

theorem file_applyAll (image : Image) (stores : List ByteStore) : file.applyAll image stores = image.applyAll stores :=
  rfl

theorem file_load? (image : Image) : file.load? image = image.decode? := rfl

theorem file_saveStores (record : FaultRecord) : file.saveStores record = Image.saveStores record := rfl

theorem file_clearStores : file.clearStores = Image.clearStores := rfl

theorem file_atomic : file.Atomic fun image => image.length = Image.size where
  fit_apply image store h := (Image.length_apply image store).trans h
  load?_save image record h := by
    rw [file_applyAll, file_load?, file_saveStores, ← Image.save, Image.decode?_save h]
  load?_cut_save image record cut h hpos hcut := by
    rw [file_saveStores, Image.length_saveStores] at hcut
    rw [file_applyAll, file_load?, file_saveStores, Image.decode?_cut_save h record hpos hcut]
  load?_begun_clear image cut h hpos := by
    rw [file_applyAll, file_load?, file_clearStores, Image.decode?_begun_clear h hpos]

end Medium

/-! ## Retained regions -/

namespace Region

theorem read_save (region : Region) (record : FaultRecord) : (region.save record).read = some record := by
  simp [save, applyAll, saveStores, apply, read]

/-- The first store of an operation takes the marker away, and the stores of fields do not bring it back. -/
theorem read_cut_save (region : Region) (record : FaultRecord) {cut : Nat} (hpos : 0 < cut) (hcut : cut < 6) :
    (region.applyAll ((saveStores record).take cut)).read = none := by
  have hcases : cut = 1 ∨ cut = 2 ∨ cut = 3 ∨ cut = 4 ∨ cut = 5 := by omega
  rcases hcases with rfl | rfl | rfl | rfl | rfl <;> simp [applyAll, saveStores, apply, read, valid]

theorem read_begun_clear (region : Region) {cut : Nat} (hpos : 0 < cut) :
    (region.applyAll (clearStores.take cut)).read = none := by
  rw [List.take_of_length_le (by simp only [clearStores, List.length_singleton]; omega)]
  simp [applyAll, clearStores, apply, read, valid]

end Region

theorem Medium.region_atomic : Medium.region.Atomic fun _ => True where
  fit_apply _ _ _ := trivial
  load?_save region record _ := Region.read_save region record
  load?_cut_save region record _ _ hpos hcut := Region.read_cut_save region record hpos hcut
  load?_begun_clear region _ _ hpos := Region.read_begun_clear region hpos

/-! ## What is found after resets -/

/-- **Only whole records are found.** -/
theorem load_after_resets_iff (attempts : List Attempt) (record : FaultRecord) :
    (∀ image : Image, image.length = Image.size →
      ((Medium.file.after image attempts).decode? = some record ↔ Medium.file.Survives image attempts record)) ∧
    (∀ region : Region,
      (Medium.region.after region attempts).read = some record ↔ Medium.region.Survives region attempts record) :=
  ⟨fun _ hfit => Medium.file_atomic.load?_after hfit attempts record,
    fun _ => Medium.region_atomic.load?_after trivial attempts record⟩

/-- Three operations cut off in the magic word, in the zero fill and before their first store, with a whole save among
them, on a file that was full of the magic word's first letter. -/
theorem load_after_three_resets :
    let debris : Image := List.replicate 32 0x46
    let first : FaultRecord := ⟨⟨0x4001⟩, 1, 2, ⟨3⟩⟩
    let second : FaultRecord := ⟨⟨0x4002⟩, 4, 5, ⟨0⟩⟩
    let attempts : List Attempt := [⟨.save first, 27⟩, ⟨.clear, 3⟩, ⟨.save second, 28⟩, ⟨.clear, 0⟩]
    debris.length = Image.size ∧ (Medium.file.after debris attempts).decode? = some second := by
  intro debris first second attempts
  have hfit : debris.length = Image.size := List.length_replicate
  refine ⟨hfit, ((load_after_resets_iff attempts second).1 debris hfit).mpr (Or.inl ⟨⟨.save second, 28⟩, ?_, rfl, ?_⟩)⟩
  · rfl
  · rfl

end PostMortem
