import PostMortem.Proofs.FileTree.Parents
import PostMortem.Proofs.Store.Opening

/-! # What exactly opening a record file does

Both ways of opening a record file are decided by what its path leads to, and by the size of the file if it is one. The
directories above are made first if a file may be made, and that can decide where the path leads: on the way of
`a/../record.bin` stands `a`, and once it is there the path may name a file that has been there all the time. So what the
second way does is told from the tree in which the directories have been made, in which every file is as it was.

* `FileTree.IsFree`: a path at which a file can be made.
* `openOrCreate_sized`, `openOrCreate_empty`, `openOrCreate_free`, `openOrCreate_other`: the second way in all cases.
* `opensExactly`: both ways, and both of them once more.
-/
set_option autoImplicit false

namespace PostMortem

namespace FileTree
open Outcome

variable {t t' : FileTree} {path : String}

/-- A path leads to a name in a directory that nothing has yet, and that a file can have. -/
def IsFree (t : FileTree) (path : String) : Prop :=
  ∃ place, t.locate (.parse path) = .ok (.named place) ∧ (Path.parse path).endsInSlash = false ∧
    t.find place = .ok none

theorem fileAt?_eq_some_iff_find {node : Nat} :
    t.fileAt? path = some node ↔
      ∃ place, t.locate (.parse path) = .ok (.named place) ∧ (Path.parse path).endsInSlash = false ∧
        t.find place = .ok (some (.file node)) := by
  rw [fileAt?_eq_some_iff, openNode_eq_ok_iff]
  simp

theorem openNode_of_fileAt? {node : Nat} (h : t.fileAt? path = some node) (create : Bool) :
    t.openNode create (.parse path) = .ok (node, t) := by
  obtain ⟨place, hlocate, hslash, hfind⟩ := fileAt?_eq_some_iff_find.mp h
  exact openNode_eq_ok_iff.mpr ⟨place, hlocate, hslash, .inl ⟨hfind, rfl⟩⟩

theorem openNode_of_isFree (h : t.IsFree path) :
    ∃ place, t.openNode true (.parse path) = .ok (t.unused, (t.addFile place []).2) := by
  obtain ⟨place, hlocate, hslash, hfind⟩ := h
  exact ⟨place, openNode_eq_ok_iff.mpr ⟨place, hlocate, hslash, .inr ⟨hfind, rfl, rfl⟩⟩⟩

/-- A path at which a file can be opened or made leads to a name, so that the directory above is there. -/
theorem isDirectory_parent (h : (∃ node, t.fileAt? path = some node) ∨ t.IsFree path) :
    t.IsDirectory (Path.parse path).parent := by
  rcases h with ⟨node, hfile⟩ | ⟨place, hlocate, -, -⟩
  · obtain ⟨place, hlocate, -, -⟩ := fileAt?_eq_some_iff_find.mp hfile
    exact isDirectory_parent_of_locate hlocate
  · exact isDirectory_parent_of_locate hlocate

theorem makeParents_of_fileAt? {node : Nat} (h : t.fileAt? path = some node) :
    t.makeParents (.parse path) = (.ok (), t) :=
  makeDirectories_of_isDirectory (isDirectory_parent (.inl ⟨node, h⟩))

end FileTree

namespace MappedRecord
open FileTree

variable {t t' u : FileTree} {path : String} {m : MappedRecord}

/-! ## Sizes -/

theorem fit_of_sized {node : Nat} (h : (t.content node).length = 32) (create : Bool) :
    fit create node t = (.ok (), t) := by
  simp [fit, h, Image.size]

theorem fit_of_empty {node : Nat} (h : t.content node = []) : fit true node t = (.ok (), t.setContent node Image.blank) := by
  simp [fit, h]

theorem fit_of_other {node : Nat} {create : Bool} (hsize : (t.content node).length ≠ 32)
    (hempty : create = true → t.content node ≠ []) :
    fit create node t = (.error (.invalidSize (t.content node).length 32), t) := by
  cases create with
  | false => simp [fit, hsize, Image.size]
  | true => simp [fit, hsize, hempty rfl, Image.size]

theorem map_of_fileAt? {node : Nat} (h : t.fileAt? path = some node) (create : Bool) :
    map create path t = ((fit create node t).1.map fun _ => ⟨path, node⟩, (fit create node t).2) :=
  map_of_ok (openNode_of_fileAt? h create)

/-! ## The second way, case by case -/

/-- Once the directories above are there, a file is opened or made. -/
theorem openOrCreate_eq_map (hparents : t.makeParents (.parse path) = (.ok (), u)) :
    openOrCreate path t = map true path u := by rw [openOrCreate, hparents]

theorem makeParents_eq_ok (hparents : (t.makeParents (.parse path)).2 = u)
    (h : (∃ node, u.fileAt? path = some node) ∨ u.IsFree path) : t.makeParents (.parse path) = (.ok (), u) := by
  have hdirectory := isDirectory_parent h
  rw [← hparents] at hdirectory
  have hok : (t.makeParents (.parse path)).1 = .ok () := makeDirectories_eq_ok_iff.mpr hdirectory
  exact Prod.ext hok hparents

section
variable (hparents : (t.makeParents (.parse path)).2 = u)
include hparents

theorem content_parents (node : Nat) : u.content node = t.content node :=
  hparents ▸ sameContents_makeParents t (.parse path) node

theorem openOrCreate_of_fileAt? {node : Nat} (hfile : u.fileAt? path = some node) :
    openOrCreate path t = ((fit true node u).1.map fun _ => ⟨path, node⟩, (fit true node u).2) := by
  rw [openOrCreate_eq_map (makeParents_eq_ok hparents (.inl ⟨node, hfile⟩)), map_of_fileAt? hfile]

theorem openOrCreate_sized {node : Nat} (hfile : u.fileAt? path = some node) (hsize : (t.content node).length = 32) :
    openOrCreate path t = (.ok ⟨path, node⟩, u) := by
  rw [← content_parents hparents] at hsize
  rw [openOrCreate_of_fileAt? hparents hfile, fit_of_sized hsize]
  rfl

theorem openOrCreate_empty {node : Nat} (hfile : u.fileAt? path = some node) (hempty : t.content node = []) :
    openOrCreate path t = (.ok ⟨path, node⟩, u.setContent node Image.blank) := by
  rw [← content_parents hparents] at hempty
  rw [openOrCreate_of_fileAt? hparents hfile, fit_of_empty hempty]
  rfl

theorem openOrCreate_other {node : Nat} (hfile : u.fileAt? path = some node) (hsize : (t.content node).length ≠ 32)
    (hempty : t.content node ≠ []) :
    openOrCreate path t = (.error (.invalidSize (t.content node).length 32), u) := by
  rw [← content_parents hparents] at hsize hempty ⊢
  rw [openOrCreate_of_fileAt? hparents hfile, fit_of_other hsize fun _ => hempty]
  rfl

theorem openOrCreate_free (hfree : u.IsFree path) :
    ∃ t', openOrCreate path t = (.ok ⟨path, u.unused⟩, t') ∧ t'.content u.unused = Image.blank := by
  obtain ⟨place, hopen⟩ := openNode_of_isFree hfree
  have hempty : (u.addFile place []).2.content u.unused = [] := by simp [content, addFile]
  rw [openOrCreate_eq_map (makeParents_eq_ok hparents (.inr hfree)), map_of_ok hopen, fit_of_empty hempty]
  exact ⟨_, rfl, content_setContent_self _ _ _⟩

/-- A file that is opened has been there, with 32 bytes or none, or has been made. -/
theorem openOrCreate_ok_cases (h : openOrCreate path t = (.ok m, t')) :
    (∃ node, u.fileAt? path = some node ∧ ((t.content node).length = 32 ∨ t.content node = [])) ∨ u.IsFree path := by
  have hmap := map_of_openOrCreate h
  rw [hparents] at hmap
  obtain ⟨v, hopen, -, hfit⟩ := map_eq_ok_iff.mp hmap
  obtain ⟨place, hlocate, hslash, ⟨hfind, rfl⟩ | ⟨hfind, -, -⟩⟩ := openNode_eq_ok_iff.mp hopen
  · have hfile : v.fileAt? path = some m.node := fileAt?_eq_some_iff_find.mpr ⟨place, hlocate, hslash, hfind⟩
    have hsame : v.content m.node = t.content m.node := content_parents hparents m.node
    refine .inl ⟨m.node, hfile, ?_⟩
    by_contra hother
    obtain ⟨hsize, hempty⟩ := not_or.mp hother
    rw [← hsame] at hsize hempty
    rw [fit_of_other hsize fun _ => hempty] at hfit
    cases hfit
  · exact .inr ⟨place, hlocate, hslash, hfind⟩

/-- What a failure leaves: the directories that have been made. -/
theorem openOrCreate_error {e : StoreError} (h : openOrCreate path t = (.error e, t')) : t' = u := by
  rcases openOrCreate_cases path t with hopen | ⟨cause, hopen⟩
  · rw [hparents] at hopen
    rw [hopen] at h
    cases hnode : u.openNode true (.parse path) with
    | error cause =>
      rw [map_of_error hnode] at h
      exact (Prod.mk.inj h).2.symm
    | ok opened =>
      obtain ⟨node, v⟩ := opened
      obtain ⟨place, hlocate, hslash, ⟨hfind, rfl⟩ | ⟨hfind, -, -⟩⟩ := openNode_eq_ok_iff.mp hnode
      · -- a file that is there can only be refused for its size, and is left alone then
        rw [map_of_ok hnode] at h
        by_cases hsize : (v.content node).length = 32
        · rw [fit_of_sized hsize] at h
          cases h
        · by_cases hempty : v.content node = []
          · rw [fit_of_empty hempty] at h
            cases h
          · rw [fit_of_other hsize fun _ => hempty] at h
            exact (Prod.mk.inj h).2.symm
      · have hfree : u.IsFree path := ⟨place, hlocate, hslash, hfind⟩
        obtain ⟨made, hmade, -⟩ := openOrCreate_free hparents hfree
        rw [hmade] at hopen
        rw [← hopen] at h
        cases h
  · rw [hopen, hparents] at h
    exact (Prod.mk.inj h).2.symm

end

/-! ## Once more -/

/-- What has been opened is found again by both ways, and they leave it as it is. -/
theorem opened_again (h : openOrCreate path t = (.ok m, t')) :
    openExisting path t' = (.ok m, t') ∧ openOrCreate path t' = (.ok m, t') := by
  obtain ⟨hpath, hfile, hsize⟩ := openOrCreate_eq_ok h
  have hparents := makeParents_of_fileAt? hfile
  refine ⟨openExisting_eq_ok_iff.mpr ⟨rfl, hpath, hfile, hsize⟩, ?_⟩
  rw [openOrCreate_sized (congrArg Prod.snd hparents) hfile hsize, ← hpath]

/-! ## Both ways -/

/-- What the two ways of opening the record file at a path do. In `u`, the directories above the file that are missing in
`t` have been made, as far as they can be. -/
structure OpensExactly (path : String) (t u : FileTree) : Prop where
  parents : GainsDirectories t u ∧ ∀ node, t.fileAt? path = some node → u = t
  existing_keeps : (openExisting path t).2 = t
  existing_iff : ∀ m, (openExisting path t).1 = .ok m ↔
    m.path = path ∧ t.fileAt? path = some m.node ∧ (t.content m.node).length = 32
  existing_invalid : ∀ node, t.fileAt? path = some node → (t.content node).length ≠ 32 →
    (openExisting path t).1 = .error (.invalidSize (t.content node).length 32)
  create_iff : (∃ m, (openOrCreate path t).1 = .ok m) ↔
    (∃ node, u.fileAt? path = some node ∧ ((t.content node).length = 32 ∨ t.content node = [])) ∨ u.IsFree path
  create_sized : ∀ node, u.fileAt? path = some node → (t.content node).length = 32 →
    openOrCreate path t = (.ok ⟨path, node⟩, u) ∧ load ⟨path, node⟩ u = Image.decode? (t.content node)
  create_empty : ∀ node, u.fileAt? path = some node → t.content node = [] →
    openOrCreate path t = (.ok ⟨path, node⟩, u.setContent node (List.replicate 32 0)) ∧
      load ⟨path, node⟩ (u.setContent node (List.replicate 32 0)) = none
  create_free : u.IsFree path → ∃ node t', openOrCreate path t = (.ok ⟨path, node⟩, t') ∧ node ∉ t.numbers ∧
    t'.content node = List.replicate 32 0 ∧ load ⟨path, node⟩ t' = none
  create_invalid : ∀ node, u.fileAt? path = some node → (t.content node).length ≠ 32 → t.content node ≠ [] →
    openOrCreate path t = (.error (.invalidSize (t.content node).length 32), u)
  create_failed : ∀ e t', openOrCreate path t = (.error e, t') → t' = u
  /-- Whatever is opened, no name is lost, and no other file is touched. -/
  create_keeps : ∀ m t', openOrCreate path t = (.ok m, t') →
    Extends t t' ∧ t'.fileAt? path = some m.node ∧ ∀ node, node ≠ m.node → t'.content node = t.content node
  again : ∀ m t', openOrCreate path t = (.ok m, t') →
    openExisting path t' = (.ok m, t') ∧ openOrCreate path t' = (.ok m, t')

/-- **Opening a record file succeeds exactly for a file of the right size, or one that can be made. It never touches a
record, and once it has succeeded it changes nothing any more.** -/
theorem opensExactly (path : String) (t : FileTree) : OpensExactly path t (t.makeParents (.parse path)).2 where
  parents := by
    refine ⟨gainsDirectories_makeParents t _, fun node hfile => ?_⟩
    rw [makeParents_of_fileAt? hfile]
  existing_keeps := openExisting_snd path t
  existing_iff m := by
    constructor
    · intro h
      have hopen : openExisting path t = (.ok m, t) := Prod.ext h (openExisting_snd path t)
      exact (openExisting_eq_ok_iff.mp hopen).2
    · intro h
      rw [openExisting_eq_ok_iff.mpr ⟨rfl, h⟩]
  existing_invalid node hfile hsize := openExisting_eq_error_iff.mpr (.inr ⟨node, hfile, hsize, rfl⟩)
  create_iff := by
    constructor
    · rintro ⟨m, hm⟩
      exact openOrCreate_ok_cases rfl (Prod.ext hm rfl)
    · rintro (⟨node, hfile, hsize | hempty⟩ | hfree)
      · exact ⟨_, congrArg Prod.fst (openOrCreate_sized rfl hfile hsize)⟩
      · exact ⟨_, congrArg Prod.fst (openOrCreate_empty rfl hfile hempty)⟩
      · obtain ⟨t', hmade, -⟩ := openOrCreate_free rfl hfree
        exact ⟨_, congrArg Prod.fst hmade⟩
  create_sized node hfile hsize :=
    ⟨openOrCreate_sized rfl hfile hsize, congrArg Image.decode? (sameContents_makeParents t _ node)⟩
  create_empty node hfile hempty := by
    refine ⟨openOrCreate_empty rfl hfile hempty, ?_⟩
    rw [load, content_setContent_self]
    decide
  create_free hfree := by
    obtain ⟨t', hmade, hblank⟩ := openOrCreate_free rfl hfree
    refine ⟨_, t', hmade, ?_, hblank, ?_⟩
    · intro hnumber
      exact Nat.lt_irrefl _ (lt_unused ((extends_makeParents t _).numbers _ hnumber))
    · rw [load, hblank]
      decide
  create_invalid node hfile hsize hempty := openOrCreate_other rfl hfile hsize hempty
  create_failed e t' h := openOrCreate_error rfl h
  create_keeps m t' h := by
    have hkept := openOrCreate_extends path t
    rw [h] at hkept
    exact ⟨hkept, (openOrCreate_eq_ok h).2.1, fun node hne => openOrCreate_content_of_ne h hne⟩
  again m t' h := opened_again h

/-- The directory that the path goes through is missing, and the file that it leads to in the end is not. -/
example :
    let record : FaultRecord := ⟨.sdkError, 5, 6, ⟨7⟩⟩
    let t := (fresh ["work"]).withFile (.parse "record.bin") (Image.save Image.blank record)
    t.fileAt? "a/../record.bin" = none ∧
      ((openOrCreate "a/../record.bin" t).1.toOption.bind fun m => m.load (openOrCreate "a/../record.bin" t).2) =
        some record := by
  decide +kernel

end MappedRecord
end PostMortem
