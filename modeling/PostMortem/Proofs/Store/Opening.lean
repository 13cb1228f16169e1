import PostMortem.Proofs.FileTree.Growth
import PostMortem.Proofs.Store.Codec
import PostMortem.Store.Mapped

/-! # Opening and using record files

Opening a record file never touches a record: a file that has bytes keeps them, whether it is taken or refused, and an
empty one at most becomes blank. What is held then has the right size, and saving and clearing keep it.

* `MappedRecord.Fills`: the changes that opening can make to the bytes of files.
* `MappedRecord.openExisting_eq_ok_iff`, `MappedRecord.openOrCreate_eq_ok`: what is held after opening.
* `MappedRecord.load_save`, `MappedRecord.load_clear`: what is loaded after saving and clearing.
-/
set_option autoImplicit false

namespace PostMortem.MappedRecord
open FileTree

variable {t t' : FileTree}

/-! ## What opening can change -/

/-- Every node has the bytes that it had, or was empty and has become blank. -/
def Fills (t t' : FileTree) : Prop :=
  ∀ node, t'.content node = t.content node ∨ t.content node = [] ∧ t'.content node = Image.blank

theorem Fills.of_sameContents (h : SameContents t t') : Fills t t' := fun node => .inl (h node)

theorem Fills.after_sameContents {t'' : FileTree} (hsame : SameContents t t') (h : Fills t' t'') : Fills t t'' := by
  intro node
  rcases h node with h | ⟨hempty, hblank⟩
  · exact .inl (h.trans (hsame node))
  · exact .inr ⟨hsame node ▸ hempty, hblank⟩

theorem Fills.of_sized (h : Fills t t') {node : Nat} (hsize : (t.content node).length = Image.size) :
    t'.content node = t.content node := by
  rcases h node with h | ⟨hempty, -⟩
  · exact h
  · rw [hempty] at hsize
    cases hsize

theorem Fills.trans {t'' : FileTree} (h : Fills t t') (h' : Fills t' t'') : Fills t t'' := by
  intro node
  rcases h node with hsame | ⟨hempty, hblank⟩
  · rw [← hsame]
    exact h' node
  · -- what has become blank is not empty any more
    have hsize : (t'.content node).length = Image.size := by rw [hblank, Image.blank, List.length_replicate]
    exact .inr ⟨hempty, (h'.of_sized hsize).trans hblank⟩

theorem Fills.decode? (h : Fills t t') (node : Nat) :
    Image.decode? (t'.content node) = Image.decode? (t.content node) := by
  rcases h node with h | ⟨hempty, hblank⟩
  · rw [h]
  · rw [hempty, hblank]
    decide

/-! ## Opening -/

theorem fit_fills (create : Bool) (node : Nat) (t : FileTree) : Fills t (fit create node t).2 := by
  intro other
  unfold fit
  dsimp only
  split
  · rename_i h
    rw [content_setContent]
    split
    · rename_i hnode
      exact .inr ⟨hnode ▸ List.eq_nil_of_length_eq_zero h.1, rfl⟩
    · exact .inl rfl
  · split <;> exact .inl rfl

theorem fit_extends (create : Bool) (node : Nat) (t : FileTree) : Extends t (fit create node t).2 := by
  unfold fit
  dsimp only
  split
  · exact extends_setContent _ _ _
  · split <;> exact Extends.refl _

theorem fit_length {create : Bool} {node : Nat} {t : FileTree} (h : (fit create node t).1 = .ok ()) :
    ((fit create node t).2.content node).length = Image.size := by
  unfold fit at h ⊢
  dsimp only at h ⊢
  split
  · rw [content_setContent_self, Image.blank, List.length_replicate]
  · split
    · rename_i hsize
      exact hsize
    · rename_i hother hsize
      rw [if_neg hother, if_neg hsize] at h
      cases h

theorem fit_content_of_ne (create : Bool) (t : FileTree) {node other : Nat} (h : other ≠ node) :
    (fit create node t).2.content other = t.content other := by
  unfold fit
  dsimp only
  split
  · exact content_setContent_of_ne t _ h
  · split <;> rfl

theorem map_of_error {create : Bool} {path : String} {e : IoError} (h : t.openNode create (.parse path) = .error e) :
    map create path t = (.error (.io e), t) := by rw [map, h]

theorem map_of_ok {create : Bool} {path : String} {node : Nat} {u : FileTree}
    (h : t.openNode create (.parse path) = .ok (node, u)) :
    map create path t = ((fit create node u).1.map fun _ => ⟨path, node⟩, (fit create node u).2) := by rw [map, h]

/-- A file is held after it has been found or made, and fitted. -/
theorem map_eq_ok_iff {create : Bool} {path : String} {m : MappedRecord} :
    map create path t = (.ok m, t') ↔
      ∃ u, t.openNode create (.parse path) = .ok (m.node, u) ∧ m.path = path ∧ fit create m.node u = (.ok (), t') := by
  cases hopen : t.openNode create (.parse path) with
  | error e => simp [map_of_error hopen]
  | ok opened =>
    obtain ⟨node, u⟩ := opened
    rw [map_of_ok hopen]
    constructor
    · intro h
      obtain ⟨hresult, htree⟩ := Prod.mk.inj h
      obtain ⟨done, hfit, rfl⟩ := Outcome.map_eq_ok_iff.mp hresult
      exact ⟨u, rfl, rfl, Prod.ext hfit htree⟩
    · rintro ⟨u', hfound, rfl, hfit⟩
      obtain ⟨rfl, rfl⟩ := Prod.mk.inj (Except.ok.inj hfound)
      rw [hfit]
      rfl

theorem map_fills (create : Bool) (path : String) (t : FileTree) : Fills t (map create path t).2 := by
  cases hopen : t.openNode create (.parse path) with
  | error e =>
    rw [map_of_error hopen]
    exact Fills.of_sameContents (SameContents.refl t)
  | ok opened =>
    rw [map_of_ok hopen]
    exact Fills.after_sameContents (SameContents.of_openNode hopen) (fit_fills _ _ _)

theorem map_extends (create : Bool) (path : String) (t : FileTree) : Extends t (map create path t).2 := by
  cases hopen : t.openNode create (.parse path) with
  | error e =>
    rw [map_of_error hopen]
    exact Extends.refl t
  | ok opened =>
    rw [map_of_ok hopen]
    exact (openNode_extends hopen).1.trans (fit_extends _ _ _)

/-- What is held after opening: the file that the path names now, which has the size of a record file. -/
theorem map_eq_ok {create : Bool} {path : String} {m : MappedRecord} (h : map create path t = (.ok m, t')) :
    m.path = path ∧ t'.fileAt? path = some m.node ∧ (t'.content m.node).length = Image.size := by
  obtain ⟨u, hopen, hpath, hfit⟩ := map_eq_ok_iff.mp h
  have hfile := (fit_extends create m.node u).fileAt? (fileAt?_eq_some_iff.mpr (openNode_extends hopen).2)
  have hsize := fit_length (congrArg Prod.fst hfit)
  rw [hfit] at hfile hsize
  exact ⟨hpath, hfile, hsize⟩

/-- Opening a file has no effect on the bytes of other files. -/
theorem map_content_of_ne {create : Bool} {path : String} {m : MappedRecord} (h : map create path t = (.ok m, t'))
    {node : Nat} (hne : node ≠ m.node) : t'.content node = t.content node := by
  obtain ⟨u, hopen, -, hfit⟩ := map_eq_ok_iff.mp h
  have hother := fit_content_of_ne create u hne
  rw [hfit] at hother
  rw [hother, SameContents.of_openNode hopen node]

theorem fit_existing (node : Nat) (t : FileTree) : (fit false node t).2 = t := by
  unfold fit
  dsimp only
  split
  · rename_i h
    cases h.2
  · split <;> rfl

/-- Opening a file that exists never changes the tree. -/
theorem openExisting_snd (path : String) (t : FileTree) : (openExisting path t).2 = t := by
  unfold openExisting
  cases hopen : t.openNode false (.parse path) with
  | error e => rw [map_of_error hopen]
  | ok opened =>
    obtain ⟨node, u⟩ := opened
    obtain ⟨-, -, -, ⟨-, rfl⟩ | ⟨-, hcreate, -⟩⟩ := openNode_eq_ok_iff.mp hopen
    · rw [map_of_ok hopen, fit_existing]
    · cases hcreate

theorem openExisting_eq_ok_iff {path : String} {m : MappedRecord} :
    openExisting path t = (.ok m, t') ↔
      t' = t ∧ m.path = path ∧ t.fileAt? path = some m.node ∧ (t.content m.node).length = Image.size := by
  constructor
  · intro h
    have htree := openExisting_snd path t
    rw [h] at htree
    subst htree
    exact ⟨rfl, map_eq_ok h⟩
  · rintro ⟨rfl, rfl, hfile, hsize⟩
    have hfit : fit false m.node t' = (.ok (), t') := by simp [fit, hsize, Image.size]
    exact map_eq_ok_iff.mpr ⟨t', fileAt?_eq_some_iff.mp hfile, rfl, hfit⟩

/-- A file that exists is refused because there is no way to it, or for its size. -/
theorem openExisting_eq_error_iff {path : String} {e : StoreError} :
    (openExisting path t).1 = .error e ↔
      (∃ cause, t.openNode false (.parse path) = .error cause ∧ e = .io cause) ∨
        ∃ node, t.fileAt? path = some node ∧ (t.content node).length ≠ Image.size ∧
          e = .invalidSize (t.content node).length Image.size := by
  unfold openExisting
  simp only [fileAt?_eq_some_iff]
  cases hopen : t.openNode false (.parse path) with
  | error cause => simp [map_of_error hopen, eq_comm]
  | ok opened =>
    obtain ⟨node, u⟩ := opened
    obtain ⟨-, -, -, ⟨-, rfl⟩ | ⟨-, hcreate, -⟩⟩ := openNode_eq_ok_iff.mp hopen
    · by_cases hsize : (u.content node).length = Image.size
      · simp [map_of_ok hopen, fit, hsize, Except.map]
      · simp [map_of_ok hopen, fit, hsize, Except.map, eq_comm (b := e)]
    · cases hcreate

/-- A file is opened once the directories above it are there, or else not at all. -/
theorem openOrCreate_cases (path : String) (t : FileTree) :
    openOrCreate path t = map true path (t.makeParents (.parse path)).2 ∨
      ∃ e, openOrCreate path t = (.error (.io e), (t.makeParents (.parse path)).2) := by
  unfold openOrCreate
  cases t.makeParents (.parse path) with
  | mk result u =>
    cases result with
    | error e => exact .inr ⟨e, rfl⟩
    | ok _ => exact .inl rfl

theorem openOrCreate_fills (path : String) (t : FileTree) : Fills t (openOrCreate path t).2 := by
  have hparents := sameContents_makeParents t (.parse path)
  rcases openOrCreate_cases path t with h | ⟨e, h⟩
  · rw [h]
    exact Fills.after_sameContents hparents (map_fills true path _)
  · rw [h]
    exact Fills.of_sameContents hparents

theorem openOrCreate_extends (path : String) (t : FileTree) : Extends t (openOrCreate path t).2 := by
  have hparents := extends_makeParents t (.parse path)
  rcases openOrCreate_cases path t with h | ⟨e, h⟩
  · rw [h]
    exact hparents.trans (map_extends true path _)
  · rw [h]
    exact hparents

theorem map_of_openOrCreate {path : String} {m : MappedRecord} (h : openOrCreate path t = (.ok m, t')) :
    map true path (t.makeParents (.parse path)).2 = (.ok m, t') := by
  rcases openOrCreate_cases path t with hopen | ⟨e, hopen⟩
  · rw [← hopen, h]
  · rw [hopen] at h
    cases h

theorem openOrCreate_eq_ok {path : String} {m : MappedRecord} (h : openOrCreate path t = (.ok m, t')) :
    m.path = path ∧ t'.fileAt? path = some m.node ∧ (t'.content m.node).length = Image.size :=
  map_eq_ok (map_of_openOrCreate h)

theorem openOrCreate_content_of_ne {path : String} {m : MappedRecord} (h : openOrCreate path t = (.ok m, t'))
    {node : Nat} (hne : node ≠ m.node) : t'.content node = t.content node := by
  rw [map_content_of_ne (map_of_openOrCreate h) hne, sameContents_makeParents t (.parse path) node]

/-! ## Using what is held -/

theorem content_save (m : MappedRecord) (record : FaultRecord) (t : FileTree) (node : Nat) :
    (m.save record t).content node =
      if node = m.node then Image.save (t.content m.node) record else t.content node := content_setContent ..

theorem content_clear (m : MappedRecord) (t : FileTree) (node : Nat) :
    (m.clear t).content node = if node = m.node then Image.clear (t.content m.node) else t.content node :=
  content_setContent ..

theorem load_save {m : MappedRecord} (h : (t.content m.node).length = Image.size) (record : FaultRecord) :
    m.load (m.save record t) = some record := by
  rw [load, content_save, if_pos rfl, Image.decode?_save h]

theorem load_clear {m : MappedRecord} (h : (t.content m.node).length = Image.size) : m.load (m.clear t) = none := by
  rw [load, content_clear, if_pos rfl, Image.decode?_clear h]

/-! ## Sizes -/

/-- Every file of the size of a record file keeps it. -/
def KeepsSizes (t t' : FileTree) : Prop :=
  ∀ node, (t.content node).length = Image.size → (t'.content node).length = Image.size

theorem KeepsSizes.refl (t : FileTree) : KeepsSizes t t := fun _ h => h

theorem KeepsSizes.trans {t'' : FileTree} (h : KeepsSizes t t') (h' : KeepsSizes t' t'') : KeepsSizes t t'' :=
  fun node hsize => h' node (h node hsize)

theorem keepsSizes_setContent (t : FileTree) (node : Nat) {bytes : List UInt8}
    (h : bytes.length = (t.content node).length) : KeepsSizes t (t.setContent node bytes) := by
  intro other hsize
  rw [content_setContent]
  split
  · rename_i hnode
    rw [h, ← hnode, hsize]
  · exact hsize

theorem keepsSizes_save (m : MappedRecord) (record : FaultRecord) (t : FileTree) : KeepsSizes t (m.save record t) :=
  keepsSizes_setContent t m.node (Image.length_save _ _)

theorem keepsSizes_clear (m : MappedRecord) (t : FileTree) : KeepsSizes t (m.clear t) :=
  keepsSizes_setContent t m.node (Image.length_clear _)

end PostMortem.MappedRecord
