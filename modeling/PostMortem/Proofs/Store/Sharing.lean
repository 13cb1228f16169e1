import PostMortem.Store.Shared

/-! # Calls on one region at the same time

If no save goes on between two steps of another save or of a read, every record that is read was saved as a whole. The
marker alone does not see to that: two saves that take turns leave a record that neither of them was for, under a valid
marker. Clears may come between any two steps, and calls may stop anywhere for good.

* `SharedRegion.Undivided`: no save goes on in the middle of another save or of a read.
* `SharedRegion.Coherent`: what then holds after every step.
* `SharedRegion.run_whole`: every record that is read is whole.
* `SharedRegion.run_mixed`: two saves in turns leave a mixed one.
-/
set_option autoImplicit false

namespace PostMortem

/-! ## Calls that run alone -/

namespace SharedRegion

theorem run_write_alone (region : Region) (record : FaultRecord) :
    ((begin region [.write record]).run (List.replicate 6 0)).region = region.save record := rfl

theorem run_clear_alone (region : Region) :
    ((begin region [.clear]).run [0]).region = region.clear := rfl

theorem run_read_alone (region : Region) :
    ((begin region [.read]).run (List.replicate 5 0)).result? 0 = some region.read := by
  by_cases hmarker : region.marker = Region.valid <;>
    simp [begin, RegionCall.begin, run, List.replicate, turn, CallProgress.step, hmarker, result?, Region.read]

end SharedRegion

/-! ## Words -/

namespace Region

/-- The record that the words make up, whether it is marked or not. -/
def words (region : Region) : FaultRecord := ⟨⟨region.id⟩, region.pc, region.info, ⟨region.code⟩⟩

theorem read_eq_some_iff {region : Region} {record : FaultRecord} :
    region.read = some record ↔ region.marker = valid ∧ region.words = record := by
  unfold read
  split
  · next hmarker => simp [hmarker, words]
  · next hmarker => simp [hmarker]

variable {region other : Region} {record : FaultRecord} {store : WordStore} {left : List WordStore}

/-- What words a store leaves depends on the words alone. -/
theorem words_apply_congr (h : region.words = other.words) (store : WordStore) :
    (region.apply store).words = (other.apply store).words := by
  simp only [words, FaultRecord.mk.injEq, FaultId.mk.injEq, StatusCode.mk.injEq] at h
  cases store <;> simp [words, apply, h]

theorem words_applyAll_congr (h : region.words = other.words) (stores : List WordStore) :
    (region.applyAll stores).words = (other.applyAll stores).words := by
  induction stores generalizing region other with
  | nil => exact h
  | cons store rest ih => exact ih (words_apply_congr h store)

/-! ## Saves under way -/

/-- A save that has begun and is not through: the region is not marked and will be by the last store, when its words
make up the record. -/
structure Midway (region : Region) (record : FaultRecord) (left : List WordStore) : Prop where
  marksLast : ∃ fields, left = fields ++ [.marker valid] ∧ ∀ store ∈ fields, ∀ value, store ≠ .marker value
  unmarked : region.marker ≠ valid
  completes : (region.applyAll left).words = record

theorem zero_ne_valid : (0 : UInt32) ≠ valid := by decide

theorem midway_begun (region : Region) (record : FaultRecord) :
    Midway (region.apply (.marker 0)) record (saveStores record).tail where
  marksLast := ⟨[.id record.id.raw, .pc record.pc, .info record.info, .code record.code.raw], rfl, by simp⟩
  unmarked := zero_ne_valid
  completes := rfl

/-- With its next store a save comes further, or it is through and the region holds its record. -/
theorem Midway.next (h : region.Midway record (store :: left)) :
    (region.apply store).Midway record left ∨ left = [] ∧ (region.apply store).read = some record := by
  obtain ⟨fields, hleft, hfields⟩ := h.marksLast
  cases fields with
  | nil =>
    obtain ⟨rfl, rfl⟩ := List.cons.inj hleft
    exact .inr ⟨rfl, read_eq_some_iff.mpr ⟨rfl, h.completes⟩⟩
  | cons field fields =>
    obtain ⟨rfl, rfl⟩ := List.cons.inj hleft
    obtain ⟨hfield, hfields⟩ := List.forall_mem_cons.mp hfields
    refine .inl ⟨⟨fields, rfl, hfields⟩, ?_, h.completes⟩
    cases store with
    | marker value => exact absurd rfl (hfield value)
    | _ => exact h.unmarked

/-- A save under way is not disturbed by a clear. -/
theorem Midway.of_words (h : region.Midway record left) (hwords : other.words = region.words)
    (hunmarked : other.marker ≠ valid) : other.Midway record left :=
  ⟨h.marksLast, hunmarked, (words_applyAll_congr hwords left).trans h.completes⟩

theorem eq_of_suffix_clearStores (h : store :: left <:+ clearStores) : store = .marker 0 ∧ left = [] := by
  simpa [clearStores, List.suffix_cons_iff] using h

end Region

/-! ## Calls under way -/

/-- What has to hold of a call that goes on, for what it saves and what it reads to have a property. -/
def UnderWay (P : FaultRecord → Prop) (region : Region) : RegionCall → CallProgress → Prop
  | .write record, .storing left => left = Region.saveStores record ∨ left = [] ∨ region.Midway record left
  | .clear, .storing left => left <:+ Region.clearStores
  | .read, .loadingMarker => True
  | .read, .loadingId => P region.words
  | .read, .loadingPc id => P region.words ∧ id = region.id
  | .read, .loadingInfo id pc => P region.words ∧ id = region.id ∧ pc = region.pc
  | .read, .loadingCode id pc info => P region.words ∧ id = region.id ∧ pc = region.pc ∧ info = region.info
  | .read, .returned record => ∀ r, record = some r → P r
  | _, _ => False

variable {P : FaultRecord → Prop} {region other : Region} {call : RegionCall} {progress : CallProgress}

theorem underWay_begin (P : FaultRecord → Prop) (region : Region) (call : RegionCall) :
    UnderWay P region call call.begin := by
  cases call with
  | write record => exact .inl rfl
  | read => exact trivial
  | clear => exact List.suffix_refl _

/-- A call under way is not disturbed by what leaves the words alone and marks nothing. -/
theorem UnderWay.of_words (h : UnderWay P region call progress) (hwords : other.words = region.words)
    (hmarker : region.marker ≠ Region.valid → other.marker ≠ Region.valid) : UnderWay P other call progress := by
  have hfields := hwords
  simp only [Region.words, FaultRecord.mk.injEq, FaultId.mk.injEq, StatusCode.mk.injEq] at hfields
  cases call with
  | write record =>
    cases progress with
    | storing left =>
      exact h.imp_right fun h => h.imp_right fun h => h.of_words hwords (hmarker h.unmarked)
    | _ => exact h
  | clear => cases progress <;> exact h
  | read => cases progress <;> simp_all [UnderWay]

/-- The next step of a call that goes on. -/
theorem UnderWay.step (h : UnderWay P region call progress) (hheld : ∀ record, region.read = some record → P record)
    (hsaved : ∀ record, call = .write record → P record) :
    UnderWay P (progress.step region).1 call (progress.step region).2 ∧
      ∀ record, (progress.step region).1.read = some record → P record := by
  have hunmarked : ∀ {after : Region}, after.marker ≠ Region.valid → ∀ record, after.read = some record → P record :=
    fun hmarker _ hread => absurd (Region.read_eq_some_iff.mp hread).1 hmarker
  cases call with
  | write record =>
    cases progress with
    | storing left =>
      rcases h with rfl | rfl | hmidway
      · exact ⟨.inr (.inr (Region.midway_begun region record)), hunmarked Region.zero_ne_valid⟩
      · exact ⟨.inr (.inl rfl), hheld⟩
      · cases left with
        | nil => exact ⟨.inr (.inl rfl), hheld⟩
        | cons store left =>
          rcases hmidway.next with hmidway | ⟨rfl, hread⟩
          · exact ⟨.inr (.inr hmidway), hunmarked hmidway.unmarked⟩
          · refine ⟨.inr (.inl rfl), fun other hother => ?_⟩
            cases hread.symm.trans hother
            exact hsaved record rfl
    | _ => exact h.elim
  | clear =>
    cases progress with
    | storing left =>
      cases left with
      | nil => exact ⟨h, hheld⟩
      | cons store left =>
        obtain ⟨rfl, rfl⟩ := Region.eq_of_suffix_clearStores h
        exact ⟨List.nil_suffix, hunmarked Region.zero_ne_valid⟩
    | _ => exact h.elim
  | read =>
    cases progress with
    | storing => exact h.elim
    | loadingMarker =>
      refine ⟨?_, hheld⟩
      rw [CallProgress.step]
      split
      · next hmarker => exact hheld _ (Region.read_eq_some_iff.mpr ⟨hmarker, rfl⟩)
      · exact nofun
    | loadingId => exact ⟨⟨h, rfl⟩, hheld⟩
    | loadingPc id => exact ⟨⟨h.1, h.2, rfl⟩, hheld⟩
    | loadingInfo id pc => exact ⟨⟨h.1, h.2.1, h.2.2, rfl⟩, hheld⟩
    | loadingCode id pc info =>
      obtain ⟨hwhole, rfl, rfl, rfl⟩ := h
      refine ⟨fun record hrecord => ?_, hheld⟩
      cases hrecord
      exact hwhole
    | returned record => exact ⟨h, hheld⟩

theorem UnderWay.of_returned {record : FaultRecord} (h : UnderWay P region call (.returned (some record))) :
    P record := by
  cases call with
  | read => exact h record rfl
  | write | clear => exact h.elim

/-- What a call that is no save leaves of the region. -/
theorem UnderWay.quiet (h : UnderWay P region call progress) (hcall : ∀ record, call ≠ .write record) :
    (progress.step region).1.words = region.words ∧
      (region.marker ≠ Region.valid → (progress.step region).1.marker ≠ Region.valid) := by
  cases call with
  | write record => exact absurd rfl (hcall record)
  | clear =>
    cases progress with
    | storing left =>
      cases left with
      | nil => exact ⟨rfl, id⟩
      | cons store left =>
        obtain ⟨rfl, -⟩ := Region.eq_of_suffix_clearStores h
        exact ⟨rfl, fun _ => Region.zero_ne_valid⟩
    | _ => exact h.elim
  | read =>
    cases progress with
    | storing => exact h.elim
    | _ => exact ⟨rfl, id⟩

/-! ## Schedules -/

namespace SharedRegion

/-- A record that the region held at first, or that one of the saves was for. -/
def Whole (region : Region) (calls : List RegionCall) (record : FaultRecord) : Prop :=
  region.read = some record ∨ .write record ∈ calls

/-- Whether the call with this number is a save. -/
def saves (calls : List RegionCall) (j : Nat) : Bool :=
  match calls[j]? with
  | some (.write _) => true
  | _ => false

/-- No save takes a step between two steps of another save or of a read. -/
def Undivided (calls : List RegionCall) (schedule : List Nat) : Prop :=
  ∀ i < calls.length, ∀ j < calls.length, i ≠ j ∧ calls[i]? ≠ some .clear ∧ saves calls j = true →
    ¬ [i, j, i].Sublist schedule

instance (calls : List RegionCall) (schedule : List Nat) : Decidable (Undivided calls schedule) :=
  inferInstanceAs (Decidable (∀ i < calls.length, ∀ j < calls.length,
    i ≠ j ∧ calls[i]? ≠ some .clear ∧ saves calls j = true → ¬ [i, j, i].Sublist schedule))

variable {calls : List RegionCall} {s : SharedRegion} {past future : List Nat}

/-- What holds after the steps of the past, if the steps of the future are still to come. Nothing is asked of a call
that will not go on, but that what it has returned has the property. -/
structure Coherent (P : FaultRecord → Prop) (calls : List RegionCall) (s : SharedRegion) (past future : List Nat) :
    Prop where
  length : s.calls.length = calls.length
  held : ∀ record, s.region.read = some record → P record
  results : ∀ i record, s.result? i = some (some record) → P record
  unbegun : ∀ i, i ∉ past → s.calls[i]? = calls[i]?.map RegionCall.begin
  underWay : ∀ i ∈ future, ∀ call progress, calls[i]? = some call → s.calls[i]? = some progress →
    UnderWay P s.region call progress

theorem result?_eq_some_iff {i : Nat} {record : Option FaultRecord} :
    s.result? i = some record ↔ s.calls[i]? = some (.returned record) := by
  unfold result?
  split
  · next found hfound => simp [hfound]
  · next hother =>
    refine iff_of_false nofun fun hreturned => ?_
    exact hother _ hreturned

theorem coherent_begin (hheld : ∀ record, region.read = some record → P record) (schedule : List Nat) :
    Coherent P calls (begin region calls) [] schedule where
  length := List.length_map ..
  held := hheld
  results := by
    intro i record hresult
    rw [result?_eq_some_iff, begin, List.getElem?_map, Option.map_eq_some_iff] at hresult
    obtain ⟨call, -, hreturned⟩ := hresult
    cases call <;> cases hreturned
  unbegun := fun i _ => List.getElem?_map ..
  underWay := by
    intro i _ call progress hcall hprogress
    rw [begin, List.getElem?_map, hcall, Option.map_some, Option.some.injEq] at hprogress
    subst hprogress
    exact underWay_begin P _ call

/-- A step of a call leaves every other call under way that goes on: after a step of a save, that is a clear or a call
that has not begun. -/
theorem Coherent.others {i j : Nat} (h : Coherent P calls s past (j :: future))
    (hundivided : Undivided calls (past ++ j :: future)) (hfuture : i ∈ future) (hne : i ≠ j)
    (hcall : calls[i]? = some call) (hprogress : s.calls[i]? = some progress) {turned : RegionCall}
    {reached : CallProgress} (hturned : calls[j]? = some turned) (hreached : s.calls[j]? = some reached) :
    UnderWay P (reached.step s.region).1 call progress := by
  have hmine := h.underWay i (List.mem_cons_of_mem j hfuture) call progress hcall hprogress
  by_cases hsave : ∃ record, turned = .write record
  · obtain ⟨record, rfl⟩ := hsave
    by_cases hclear : call = .clear
    · subst hclear
      cases progress <;> exact hmine
    · -- If the call had begun, the save would take a step between two of its own.
      have hpast : i ∉ past := by
        intro hpast
        have hturns : [i, j, i].Sublist (past ++ j :: future) :=
          (List.singleton_sublist.mpr hpast).append ((List.singleton_sublist.mpr hfuture).cons_cons j)
        have hi := (List.getElem?_eq_some_iff.mp hcall).1
        have hj := (List.getElem?_eq_some_iff.mp hturned).1
        have hother : calls[i]? ≠ some .clear := fun h => hclear (Option.some.inj (hcall.symm.trans h))
        exact hundivided i hi j hj ⟨hne, hother, by rw [saves, hturned]⟩ hturns
      have hbegin := h.unbegun i hpast
      rw [hprogress, hcall, Option.map_some, Option.some.injEq] at hbegin
      rw [hbegin]
      exact underWay_begin P _ call
  · obtain ⟨hwords, hmarker⟩ :=
      (h.underWay j List.mem_cons_self turned reached hturned hreached).quiet (not_exists.mp hsave)
    exact hmine.of_words hwords hmarker

theorem Coherent.turn {j : Nat} (h : Coherent P calls s past (j :: future))
    (hundivided : Undivided calls (past ++ j :: future)) (hsaved : ∀ record, .write record ∈ calls → P record) :
    Coherent P calls (s.turn j) (past ++ [j]) future := by
  have hbefore : ∀ {i}, i ∉ past ++ [j] → i ∉ past ∧ i ≠ j := by simp
  unfold SharedRegion.turn
  cases hreached : s.calls[j]? with
  | none =>
    exact ⟨h.length, h.held, h.results, fun i hi => h.unbegun i (hbefore hi).1,
      fun i hi => h.underWay i (List.mem_cons_of_mem j hi)⟩
  | some reached =>
    obtain ⟨hlt, -⟩ := List.getElem?_eq_some_iff.mp hreached
    obtain ⟨turned, hturned⟩ : ∃ turned, calls[j]? = some turned :=
      ⟨_, List.getElem?_eq_getElem (h.length ▸ hlt)⟩
    have hmine := h.underWay j List.mem_cons_self turned reached hturned hreached
    have hmem := List.mem_of_getElem? hturned
    obtain ⟨hnext, hheld⟩ := hmine.step h.held fun record hrecord => hsaved record (hrecord ▸ hmem)
    have hself : (s.calls.set j (reached.step s.region).2)[j]? = some (reached.step s.region).2 :=
      List.getElem?_set_self hlt
    have hother : ∀ {i}, i ≠ j → (s.calls.set j (reached.step s.region).2)[i]? = s.calls[i]? :=
      fun hne => List.getElem?_set_ne (Ne.symm hne)
    refine ⟨(List.length_set ..).trans h.length, hheld, ?_, ?_, ?_⟩
    · intro i record hresult
      rw [result?_eq_some_iff] at hresult
      by_cases hi : i = j
      · subst hi
        rw [hself, Option.some.injEq] at hresult
        rw [hresult] at hnext
        exact hnext.of_returned
      · rw [hother hi] at hresult
        exact h.results i record (result?_eq_some_iff.mpr hresult)
    · intro i hi
      rw [hother (hbefore hi).2]
      exact h.unbegun i (hbefore hi).1
    · intro i hfuture call progress hcall hprogress
      by_cases hi : i = j
      · subst hi
        rw [hself, Option.some.injEq] at hprogress
        cases hturned.symm.trans hcall
        exact hprogress ▸ hnext
      · rw [hother hi] at hprogress
        exact h.others hundivided hfuture hi hcall hprogress hturned hreached

theorem Coherent.run (hsaved : ∀ record, .write record ∈ calls → P record) :
    ∀ {future past : List Nat} {s : SharedRegion}, Coherent P calls s past future →
      Undivided calls (past ++ future) → Coherent P calls (s.run future) (past ++ future) [] := by
  intro future
  induction future with
  | nil =>
    intro past s h _
    rwa [List.append_nil]
  | cons j future ih =>
    intro past s h hundivided
    have hnext := ih (h.turn hundivided hsaved) (by rwa [List.append_assoc])
    rwa [List.append_assoc] at hnext

/-- **If no save goes on in the middle of another save or of a read, every record that is read is whole**, whether a
call reads it in between or it is read after all. -/
theorem run_whole {region : Region} {calls : List RegionCall} {schedule : List Nat}
    (h : Undivided calls schedule) :
    (∀ i record, ((begin region calls).run schedule).result? i = some (some record) → Whole region calls record) ∧
      ∀ record, ((begin region calls).run schedule).region.read = some record → Whole region calls record := by
  have hbegin : Coherent (Whole region calls) calls (begin region calls) [] schedule :=
    coherent_begin (fun _ => .inl) schedule
  have hend := hbegin.run (fun _ => .inr) h
  exact ⟨hend.results, hend.held⟩

/-- A save, a read with a clear in the middle of it, and another save that stops on its way. -/
theorem run_whole_of_clear_between :
    let record : FaultRecord := ⟨⟨1⟩, 2, 3, ⟨4⟩⟩
    let calls : List RegionCall := [.write record, .read, .clear, .write ⟨⟨5⟩, 6, 7, ⟨8⟩⟩]
    let schedule := [0, 0, 0, 0, 0, 0, 1, 1, 1, 2, 1, 1, 3, 3, 3]
    ((begin .empty calls).run schedule).result? 1 = some (some record) ∧ Whole .empty calls record := by
  intro record calls schedule
  have hundivided : Undivided calls schedule := by decide +kernel
  have hresult : ((begin .empty calls).run schedule).result? 1 = some (some record) := by decide +kernel
  exact ⟨hresult, (run_whole hundivided).1 1 record hresult⟩

/-- **Two saves that take turns leave a mixed record under a valid marker.** A read after both are through gives two
words of one and two of the other. -/
theorem run_mixed :
    let first : FaultRecord := ⟨⟨1⟩, 1, 1, ⟨1⟩⟩
    let second : FaultRecord := ⟨⟨2⟩, 2, 2, ⟨2⟩⟩
    let calls : List RegionCall := [.write first, .write second, .read]
    let schedule := [0, 0, 0, 1, 1, 1, 1, 1, 1, 0, 0, 0, 2, 2, 2, 2, 2]
    let mixed : FaultRecord := ⟨second.id, second.pc, first.info, first.code⟩
    ((begin .empty calls).run schedule).calls = [.storing [], .storing [], .returned (some mixed)] ∧
      ¬ Whole .empty calls mixed := by
  intro first second calls schedule mixed
  constructor
  · decide +kernel
  · rintro (hread | hmem)
    · exact absurd hread (by decide +kernel)
    · exact absurd hmem (by decide +kernel)

/-- So does a read that goes on after another save. -/
example :
    let calls : List RegionCall := [.write ⟨⟨1⟩, 1, 1, ⟨1⟩⟩, .write ⟨⟨2⟩, 2, 2, ⟨2⟩⟩, .read]
    let schedule := [0, 0, 0, 0, 0, 0, 2, 2, 2, 1, 1, 1, 1, 1, 1, 2, 2]
    ((begin .empty calls).run schedule).result? 2 = some (some ⟨⟨1⟩, 1, 2, ⟨2⟩⟩) := by
  decide +kernel

end SharedRegion

end PostMortem
