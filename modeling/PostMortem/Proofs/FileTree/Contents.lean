import PostMortem.FileTree.Access
import PostMortem.Proofs.Outcome

/-! # The bytes of files

Changes of the name space never touch the bytes of a node: not that of a file that is made, removed or renamed, and
not that of any other. A new file is empty, and empty is what its number stood for before.

* `FileTree.content_setContent`: what replacing the bytes of one node does.
* `FileTree.SameContents`: two trees in which every node has the same bytes.
* `FileTree.openNode_eq_ok_iff`: when a path names a file, and which.
* `FileTree.SameContents.of_openNode` and its like: operations on the name space.
-/
set_option autoImplicit false

namespace PostMortem.FileTree
open Outcome

variable {t t' : FileTree}

/-! ## One node -/

theorem lookup_filter_ne {α β : Type} [BEq α] [LawfulBEq α] (l : List (α × β)) {key other : α} (h : other ≠ key) :
    (l.filter fun entry => entry.1 != key).lookup other = l.lookup other := by
  induction l with
  | nil => rfl
  | cons entry l ih =>
    obtain ⟨k, b⟩ := entry
    by_cases hk : k = key
    · have hne : (other == key) = false := by simpa using h
      rw [List.filter_cons_of_neg (by simpa using hk), List.lookup_cons, hk, hne, ih]
    · rw [List.filter_cons_of_pos (by simpa using hk), List.lookup_cons, List.lookup_cons, ih]

theorem lookup_filter_self {α β : Type} [BEq α] [LawfulBEq α] (l : List (α × β)) (key : α) :
    (l.filter fun entry => entry.1 != key).lookup key = none := by
  rw [List.lookup_eq_none_iff]
  intro entry hentry
  have hne : entry.1 ≠ key := bne_iff_ne.mp (List.mem_filter.mp hentry).2
  exact bne_iff_ne.mpr hne.symm

theorem content_setContent (t : FileTree) (node other : Nat) (bytes : List UInt8) :
    (t.setContent node bytes).content other = if other = node then bytes else t.content other := by
  by_cases h : other = node
  · simp [content, setContent, h]
  · have hne : (other == node) = false := by simpa using h
    simp only [content, setContent, List.lookup_cons, hne, if_neg h, lookup_filter_ne _ h]

theorem content_setContent_self (t : FileTree) (node : Nat) (bytes : List UInt8) :
    (t.setContent node bytes).content node = bytes := by rw [content_setContent, if_pos rfl]

theorem content_setContent_of_ne (t : FileTree) {node other : Nat} (bytes : List UInt8) (h : other ≠ node) :
    (t.setContent node bytes).content other = t.content other := by rw [content_setContent, if_neg h]

/-! ## New numbers -/

theorem lt_unused {n : Nat} (h : n ∈ t.numbers) : n < t.unused := by
  have hmax : ∀ l : List Nat, n ∈ l → n ≤ l.foldr max root := by
    intro l hl
    induction l with
    | nil => cases hl
    | cons m l ih =>
      rw [List.foldr_cons]
      rcases List.mem_cons.mp hl with rfl | hl
      · exact Nat.le_max_left _ _
      · exact Nat.le_trans (ih hl) (Nat.le_max_right _ _)
  exact Nat.lt_succ_of_le (hmax _ h)

theorem mem_numbers_of_lookup_nodes {node : Nat} {bytes : List UInt8} (h : t.nodes.lookup node = some bytes) :
    node ∈ t.numbers := by
  have hnode : node ∈ t.nodes.map fun node => node.1 := by
    obtain ⟨l₁, l₂, hl, -⟩ := List.lookup_eq_some_iff.mp h
    simp [hl]
  simp [numbers, hnode]

theorem content_of_not_mem_numbers {node : Nat} (h : node ∉ t.numbers) : t.content node = [] := by
  cases hnode : t.nodes.lookup node with
  | none => simp [content, hnode]
  | some bytes => exact absurd (mem_numbers_of_lookup_nodes hnode) h

theorem content_unused : t.content t.unused = [] :=
  content_of_not_mem_numbers fun h => Nat.lt_irrefl _ (lt_unused h)

/-! ## Trees with the same contents -/

/-- Every node has the same bytes in both trees. -/
def SameContents (t t' : FileTree) : Prop := ∀ node, t'.content node = t.content node

theorem SameContents.refl (t : FileTree) : SameContents t t := fun _ => rfl

theorem SameContents.of_nodes (h : t'.nodes = t.nodes) : SameContents t t' := fun node => by rw [content, content, h]

theorem sameContents_addFile (t : FileTree) (place : Place) : SameContents t (t.addFile place []).2 := by
  intro node
  by_cases h : node = t.unused
  · rw [h, content_unused]
    simp [content, addFile]
  · have hne : (node == t.unused) = false := by simpa using h
    simp [content, addFile, List.lookup_cons, hne]

theorem sameContents_move (t : FileTree) (source target : Place) : SameContents t (t.move source target) := by
  apply SameContents.of_nodes
  unfold move
  cases t.named? source with
  | none => rfl
  | some entry => cases entry <;> rfl

/-! ## Operations on the name space -/

/-- A path names a file, which may have been made just now. -/
theorem openNode_eq_ok_iff {create : Bool} {path : Path} {node : Nat} :
    t.openNode create path = .ok (node, t') ↔
      ∃ place, t.locate path = .ok (.named place) ∧ path.endsInSlash = false ∧
        (t.find place = .ok (some (.file node)) ∧ t' = t ∨
          t.find place = .ok none ∧ create = true ∧ t.addFile place [] = (node, t')) := by
  simp only [openNode, bind_eq_ok_iff]
  constructor
  · rintro ⟨target, hlocate, h⟩
    cases target with
    | directory number => cases h
    | named place =>
      dsimp only at h
      split at h
      · cases h
      · rename_i hcreate
        obtain ⟨found, hfind, h⟩ := bind_eq_ok_iff.mp h
        rw [mapError_eq_ok_iff] at hfind
        cases found with
        | none =>
          dsimp only at h
          split at h
          · rename_i hmake
            have hslash : path.endsInSlash = false := by simpa [hmake] using hcreate
            exact ⟨place, hlocate, hslash, .inr ⟨hfind, hmake, Except.ok.inj h⟩⟩
          · cases h
        | some entry =>
          cases entry with
          | directory number => cases h
          | file found =>
            dsimp only at h
            split at h
            · cases h
            · rename_i hslash
              cases h
              exact ⟨place, hlocate, by simpa using hslash, .inl ⟨hfind, rfl⟩⟩
  · rintro ⟨place, hlocate, hslash, ⟨hfind, rfl⟩ | ⟨hfind, hmake, hadd⟩⟩
    · have hfound : (t'.find place).mapError IoError.system = .ok (some (.file node)) := mapError_eq_ok_iff.mpr hfind
      refine ⟨_, hlocate, ?_⟩
      simp [hslash, hfound, bind, Except.bind, pure_eq_ok]
    · have hfree : (t.find place).mapError IoError.system = .ok none := mapError_eq_ok_iff.mpr hfind
      refine ⟨_, hlocate, ?_⟩
      simp [hslash, hfree, hmake, hadd, bind, Except.bind, pure_eq_ok]

theorem removeFile_eq_ok {path : Path} (h : t.removeFile path = .ok t') : ∃ place, t' = t.erase place := by
  rw [removeFile, bind_eq_ok_iff] at h
  obtain ⟨target, -, h⟩ := h
  cases target with
  | directory number => cases h
  | named place =>
    obtain ⟨found, -, h⟩ := bind_eq_ok_iff.mp h
    cases found with
    | none => cases h
    | some entry =>
      cases entry with
      | directory number => cases h
      | file node =>
        dsimp only at h
        split at h
        · cases h
        · exact ⟨place, (Except.ok.inj h).symm⟩

theorem makeDirectory_eq_ok {path : Path} (h : t.makeDirectory path = .ok t') :
    ∃ place, t' = (t.addDirectory place).2 := by
  rw [makeDirectory, bind_eq_ok_iff] at h
  obtain ⟨target, -, h⟩ := h
  cases target with
  | directory number => cases h
  | named place =>
    obtain ⟨found, -, h⟩ := bind_eq_ok_iff.mp h
    cases found with
    | none => exact ⟨place, (Except.ok.inj h).symm⟩
    | some entry => cases h

theorem rename_eq_ok {source target : Path} (h : t.rename source target = .ok t') :
    t' = t ∨ ∃ a b, t' = t.move a b := by
  rw [rename, bind_eq_ok_iff] at h
  obtain ⟨from?, -, h⟩ := h
  obtain ⟨to?, -, h⟩ := bind_eq_ok_iff.mp h
  cases from? with
  | directory number => cases h
  | named a =>
    cases to? with
    | directory number => cases h
    | named b =>
      obtain ⟨moved, -, h⟩ := bind_eq_ok_iff.mp h
      obtain ⟨taken, -, h⟩ := bind_eq_ok_iff.mp h
      split at h
      · cases h
      · cases h
      · split at h
        · cases h
        · split at h
          · exact .inl (Except.ok.inj h).symm
          · exact .inr ⟨a, b, (Except.ok.inj h).symm⟩
      · cases h
      · split at h
        · exact .inl (Except.ok.inj h).symm
        · split at h
          · cases h
          · split at h
            · cases h
            · exact .inr ⟨a, b, (Except.ok.inj h).symm⟩
      · split at h
        · cases h
        · exact .inr ⟨a, b, (Except.ok.inj h).symm⟩

theorem makeAll_nodes (t : FileTree) (directory : Nat) (missing : Bool) (names : List String) :
    (t.makeAll directory missing names).2.nodes = t.nodes := by
  induction names generalizing t directory missing with
  | nil => rfl
  | cons name rest ih =>
    rw [makeAll]
    split
    · exact ih _ _ _
    · exact (ih _ _ _).trans rfl
    · rfl
    · rfl

theorem makeParents_nodes (t : FileTree) (path : Path) : (t.makeParents path).2.nodes = t.nodes := by
  rw [makeParents, makeDirectories]
  split
  · rfl
  · split
    · rfl
    · exact makeAll_nodes _ _ _ _

theorem SameContents.of_openNode {create : Bool} {path : Path} {node : Nat}
    (h : t.openNode create path = .ok (node, t')) : SameContents t t' := by
  obtain ⟨place, -, -, ⟨-, rfl⟩ | ⟨-, -, hadd⟩⟩ := openNode_eq_ok_iff.mp h
  · exact SameContents.refl _
  · have hsame := sameContents_addFile t place
    rwa [hadd] at hsame

theorem SameContents.of_removeFile {path : Path} (h : t.removeFile path = .ok t') : SameContents t t' := by
  obtain ⟨place, rfl⟩ := removeFile_eq_ok h
  exact SameContents.of_nodes rfl

theorem SameContents.of_makeDirectory {path : Path} (h : t.makeDirectory path = .ok t') : SameContents t t' := by
  obtain ⟨place, rfl⟩ := makeDirectory_eq_ok h
  exact SameContents.of_nodes rfl

theorem SameContents.of_rename {source target : Path} (h : t.rename source target = .ok t') : SameContents t t' := by
  obtain rfl | ⟨a, b, rfl⟩ := rename_eq_ok h
  · exact SameContents.refl _
  · exact sameContents_move _ _ _

theorem sameContents_makeParents (t : FileTree) (path : Path) : SameContents t (t.makeParents path).2 :=
  SameContents.of_nodes (makeParents_nodes t path)

end PostMortem.FileTree
