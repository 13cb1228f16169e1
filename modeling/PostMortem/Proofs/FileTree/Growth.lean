import PostMortem.Proofs.FileTree.Contents

/-! # Growing trees

A tree that only gains names still leads every path that named a file to the same file. New numbers matter here: a new
directory must not be one that some old name or some way up already leads to.

* `FileTree.Extends`: a tree has all that another one has, and perhaps more.
* `FileTree.Extends.openNode`: a path that named a file still names it.
* `FileTree.extends_makeParents`, `FileTree.openNode_extends`: making directories and files only adds.
* `FileTree.fileAt?`: the file that a path names.
* `FileTree.SameNames`: trees that differ in the bytes of their files alone.
-/
set_option autoImplicit false

namespace PostMortem.FileTree
open Outcome

variable {t t' t'' : FileTree}

/-- All names, ways up and numbers of the first tree are in the second one. -/
structure Extends (t t' : FileTree) : Prop where
  home : t'.home = t.home
  numbers : ∀ n ∈ t.numbers, n ∈ t'.numbers
  named? : ∀ place entry, t.named? place = some entry → t'.named? place = some entry
  above : ∀ n ∈ t.numbers, t'.above n = t.above n

namespace Extends

theorem refl (t : FileTree) : Extends t t where
  home := rfl
  numbers _ h := h
  named? _ _ h := h
  above _ _ := rfl

theorem trans (h : Extends t t') (h' : Extends t' t'') : Extends t t'' where
  home := h'.home.trans h.home
  numbers n hn := h'.numbers n (h.numbers n hn)
  named? place entry he := h'.named? place entry (h.named? place entry he)
  above n hn := (h'.above n (h.numbers n hn)).trans (h.above n hn)

end Extends

/-! ## The ways that paths take -/

theorem mem_numbers_of_named? {place : Place} {entry : Entry} (h : t.named? place = some entry) :
    entry.number ∈ t.numbers := by
  obtain ⟨l₁, l₂, hl, -⟩ := List.lookup_eq_some_iff.mp h
  simp [numbers, hl]

theorem above_mem_numbers (t : FileTree) (directory : Nat) : t.above directory ∈ t.numbers := by
  cases h : t.parents.lookup directory with
  | none => simp [above, h, numbers]
  | some parent =>
    have habove : t.above directory = parent := by rw [above, h, Option.getD_some]
    obtain ⟨l₁, l₂, hl, -⟩ := List.lookup_eq_some_iff.mp h
    simp [habove, numbers, hl]

theorem start_mem_numbers (t : FileTree) (path : Path) : t.start path ∈ t.numbers := by
  unfold start
  split <;> simp [numbers]

theorem find_eq_ok_iff {place : Place} {found : Option Entry} :
    t.find place = .ok found ↔ isTooLong place.name = false ∧ t.named? place = found := by
  unfold find
  cases isTooLong place.name <;> simp

theorem enter_eq_ok_iff {directory number : Nat} {name : String} (hdot : name ≠ ".") (hdots : name ≠ "..") :
    t.enter directory name = .ok number ↔ t.find ⟨directory, name⟩ = .ok (some (.directory number)) := by
  rw [enter, if_neg hdot, if_neg hdots, bind_eq_ok_iff]
  constructor
  · rintro ⟨found, hfind, h⟩
    cases found with
    | none => cases h
    | some entry =>
      cases entry with
      | directory other => rw [hfind, Except.ok.inj h]
      | file node => cases h
  · intro hfind
    exact ⟨_, hfind, rfl⟩

theorem enter_mem_numbers {directory number : Nat} {name : String} (hd : directory ∈ t.numbers)
    (h : t.enter directory name = .ok number) : number ∈ t.numbers := by
  by_cases hdot : name = "."
  · rw [enter, if_pos hdot] at h
    rwa [← Except.ok.inj h]
  · by_cases hdots : name = ".."
    · rw [enter, if_neg hdot, if_pos hdots] at h
      rw [← Except.ok.inj h]
      exact above_mem_numbers t directory
    · have hfind := (enter_eq_ok_iff hdot hdots).mp h
      exact mem_numbers_of_named? (find_eq_ok_iff.mp hfind).2

namespace Extends

theorem find (h : Extends t t') {place : Place} {entry : Entry} (hfind : t.find place = .ok (some entry)) :
    t'.find place = .ok (some entry) := by
  obtain ⟨hlong, hentry⟩ := find_eq_ok_iff.mp hfind
  exact find_eq_ok_iff.mpr ⟨hlong, h.named? _ _ hentry⟩

theorem enter (h : Extends t t') {directory number : Nat} {name : String} (hd : directory ∈ t.numbers)
    (henter : t.enter directory name = .ok number) : t'.enter directory name = .ok number := by
  by_cases hdot : name = "."
  · rw [FileTree.enter, if_pos hdot] at henter ⊢
    exact henter
  · by_cases hdots : name = ".."
    · rw [FileTree.enter, if_neg hdot, if_pos hdots] at henter ⊢
      rw [h.above directory hd]
      exact henter
    · rw [enter_eq_ok_iff hdot hdots] at henter ⊢
      exact h.find henter

theorem walk (h : Extends t t') {names : List String} {directory number : Nat} (hd : directory ∈ t.numbers)
    (hwalk : names.foldlM t.enter directory = .ok number) :
    names.foldlM t'.enter directory = .ok number ∧ number ∈ t.numbers := by
  induction names generalizing directory with
  | nil =>
    have hsame : directory = number := Except.ok.inj hwalk
    exact ⟨hwalk, hsame ▸ hd⟩
  | cons name names ih =>
    rw [List.foldlM_cons, bind_eq_ok_iff] at hwalk
    obtain ⟨next, henter, hrest⟩ := hwalk
    obtain ⟨hwalk, hnumber⟩ := ih (enter_mem_numbers hd henter) hrest
    refine ⟨?_, hnumber⟩
    rw [List.foldlM_cons, bind_eq_ok_iff]
    exact ⟨next, h.enter hd henter, hwalk⟩

theorem locate (h : Extends t t') {path : Path} {target : Target} (hlocate : t.locate path = .ok target) :
    t'.locate path = .ok target := by
  simp only [FileTree.locate, bind_eq_ok_iff, mapError_eq_ok_iff] at hlocate ⊢
  obtain ⟨_, hcheck, directory, hwalk, hlast⟩ := hlocate
  obtain ⟨hwalk', hdirectory⟩ := h.walk (start_mem_numbers t path) hwalk
  have hstart : t'.start path = t.start path := by simp only [start, h.home]
  have hstep : t'.lastStep directory path.names.getLast? = t.lastStep directory path.names.getLast? := by
    simp only [lastStep, h.above directory hdirectory]
  exact ⟨_, hcheck, directory, hstart ▸ hwalk', hstep ▸ hlast⟩

/-- **A path that named a file still names it.** -/
theorem openNode (h : Extends t t') {path : Path} {node : Nat} (hopen : t.openNode false path = .ok (node, t)) :
    t'.openNode false path = .ok (node, t') := by
  obtain ⟨place, hlocate, hslash, ⟨hfind, -⟩ | ⟨-, hcreate, -⟩⟩ := openNode_eq_ok_iff.mp hopen
  · exact openNode_eq_ok_iff.mpr ⟨place, h.locate hlocate, hslash, .inl ⟨h.find hfind, rfl⟩⟩
  · cases hcreate

end Extends

/-! ## Operations that only add -/

theorem extends_setContent (t : FileTree) (node : Nat) (bytes : List UInt8) : Extends t (t.setContent node bytes) where
  home := rfl
  numbers n hn := by
    by_cases h : n = node
    · simp [numbers, setContent, h]
    · have hkeep : n ∈ t.nodes.map (fun node => node.1) →
          n ∈ (t.nodes.filter fun other => other.1 != node).map fun node => node.1 := by
        intro hn
        obtain ⟨entry, hentry, rfl⟩ := List.mem_map.mp hn
        exact List.mem_map.mpr ⟨entry, List.mem_filter.mpr ⟨hentry, by simpa using h⟩, rfl⟩
      simp only [numbers, setContent, List.mem_append, List.map_cons, List.mem_cons] at hn ⊢
      rcases hn with hn | hn
      · exact .inl hn
      · exact .inr (.inr (hkeep hn))
  named? _ _ h := h
  above _ _ := rfl

theorem extends_addFile {place : Place} (hfree : t.named? place = none) (bytes : List UInt8) :
    Extends t (t.addFile place bytes).2 where
  home := rfl
  numbers n hn := by
    simp only [numbers, addFile, List.mem_append, List.mem_cons, List.flatMap_cons, List.map_cons] at hn ⊢
    rcases hn with (hn | hn) | hn
    · exact .inl (.inl hn)
    · exact .inl (.inr (.inr hn))
    · exact .inr (.inr hn)
  named? other entry h := by
    have hne : other ≠ place := by
      rintro rfl
      rw [hfree] at h
      cases h
    have hkey : (other == place) = false := by simpa using hne
    simpa [addFile, FileTree.named?, List.lookup_cons, hkey] using h
  above _ _ := rfl

theorem extends_addDirectory {place : Place} (hfree : t.named? place = none) : Extends t (t.addDirectory place).2 where
  home := rfl
  numbers n hn := by
    simp only [numbers, addDirectory, List.mem_append, List.mem_cons, List.flatMap_cons] at hn ⊢
    rcases hn with ((hn | hn | hn) | hn) | hn
    · exact .inl (.inl (.inl hn))
    · exact .inl (.inl (.inr (.inl hn)))
    · exact .inl (.inl (.inr (.inr (.inr hn))))
    · exact .inl (.inr (.inr hn))
    · exact .inr hn
  named? other entry h := by
    have hne : other ≠ place := by
      rintro rfl
      rw [hfree] at h
      cases h
    have hkey : (other == place) = false := by simpa using hne
    simpa [addDirectory, FileTree.named?, List.lookup_cons, hkey] using h
  above n hn := by
    have hne : n ≠ t.unused := Nat.ne_of_lt (lt_unused hn)
    have hkey : (n == t.unused) = false := by simpa using hne
    simp [addDirectory, FileTree.above, List.lookup_cons, hkey]

theorem named?_eq_none_of_enter {directory : Nat} {name : String} (h : t.enter directory name = .error .noEntry) :
    t.named? ⟨directory, name⟩ = none := by
  by_cases hdot : name = "."
  · rw [enter, if_pos hdot] at h
    cases h
  · by_cases hdots : name = ".."
    · rw [enter, if_neg hdot, if_pos hdots] at h
      cases h
    · rw [enter, if_neg hdot, if_neg hdots, find] at h
      split at h
      · cases h
      · cases hentry : t.named? ⟨directory, name⟩ with
        | none => rfl
        | some entry =>
          rw [hentry] at h
          cases entry <;> cases h

theorem extends_makeAll (t : FileTree) (directory : Nat) (missing : Bool) (names : List String) :
    Extends t (t.makeAll directory missing names).2 := by
  induction names generalizing t directory missing with
  | nil => exact Extends.refl t
  | cons name rest ih =>
    rw [makeAll]
    split
    · exact ih _ _ _
    · rename_i hmissing
      exact (extends_addDirectory (named?_eq_none_of_enter hmissing)).trans (ih _ _ _)
    · exact Extends.refl t
    · exact Extends.refl t

theorem extends_makeParents (t : FileTree) (path : Path) : Extends t (t.makeParents path).2 := by
  rw [makeParents, makeDirectories]
  split
  · exact Extends.refl t
  · split
    · exact Extends.refl t
    · exact extends_makeAll _ _ _ _

/-- Opening a file only adds, and what has been opened can be opened again. -/
theorem openNode_extends {create : Bool} {path : Path} {node : Nat} (h : t.openNode create path = .ok (node, t')) :
    Extends t t' ∧ t'.openNode false path = .ok (node, t') := by
  obtain ⟨place, hlocate, hslash, ⟨hfind, rfl⟩ | ⟨hfind, -, hadd⟩⟩ := openNode_eq_ok_iff.mp h
  · exact ⟨Extends.refl _, openNode_eq_ok_iff.mpr ⟨place, hlocate, hslash, .inl ⟨hfind, rfl⟩⟩⟩
  · obtain ⟨hlong, hfree⟩ := find_eq_ok_iff.mp hfind
    have hext := extends_addFile hfree []
    rw [hadd] at hext
    have hentry : t'.named? place = some (.file node) := by
      obtain ⟨rfl, rfl⟩ := Prod.mk.inj hadd
      simp [named?]
    exact ⟨hext, openNode_eq_ok_iff.mpr
      ⟨place, hext.locate hlocate, hslash, .inl ⟨find_eq_ok_iff.mpr ⟨hlong, hentry⟩, rfl⟩⟩⟩

/-! ## The file that a path names -/

/-- The node of the file that a path names. -/
def fileAt? (t : FileTree) (path : String) : Option Nat := (t.openNode false (.parse path)).toOption.map (·.1)

theorem fileAt?_eq_some_iff {path : String} {node : Nat} :
    t.fileAt? path = some node ↔ t.openNode false (.parse path) = .ok (node, t) := by
  unfold fileAt?
  cases h : t.openNode false (.parse path) with
  | error e => simp [Except.toOption]
  | ok opened =>
    obtain ⟨found, other⟩ := opened
    obtain ⟨-, -, -, ⟨-, rfl⟩ | ⟨-, hcreate, -⟩⟩ := openNode_eq_ok_iff.mp h
    · simp [Except.toOption]
    · cases hcreate

theorem Extends.fileAt? (h : Extends t t') {path : String} {node : Nat} (hfile : t.fileAt? path = some node) :
    t'.fileAt? path = some node :=
  fileAt?_eq_some_iff.mpr (h.openNode (fileAt?_eq_some_iff.mp hfile))

theorem read_eq_ok_iff {path : String} {bytes : List UInt8} :
    t.read (.parse path) = .ok bytes ↔ ∃ node, t.fileAt? path = some node ∧ t.content node = bytes := by
  simp only [read, map_eq_ok_iff, fileAt?_eq_some_iff]
  constructor
  · rintro ⟨⟨node, other⟩, hopen, hbytes⟩
    obtain ⟨-, -, -, ⟨-, rfl⟩ | ⟨-, hcreate, -⟩⟩ := openNode_eq_ok_iff.mp hopen
    · exact ⟨node, hopen, hbytes⟩
    · cases hcreate
  · rintro ⟨node, hopen, hbytes⟩
    exact ⟨_, hopen, hbytes⟩

theorem fileAt?_setContent {path : String} {node : Nat} (h : t.fileAt? path = some node) (other : Nat)
    (bytes : List UInt8) : (t.setContent other bytes).fileAt? path = some node :=
  (extends_setContent t other bytes).fileAt? h

theorem read_setContent_of_ne {path : String} {node other : Nat} (h : t.fileAt? path = some node) (hne : node ≠ other)
    (bytes : List UInt8) : (t.setContent other bytes).read (.parse path) = t.read (.parse path) := by
  have hread : t.read (.parse path) = .ok (t.content node) := read_eq_ok_iff.mpr ⟨node, h, rfl⟩
  rw [hread]
  exact read_eq_ok_iff.mpr ⟨node, fileAt?_setContent h other bytes, content_setContent_of_ne t bytes hne⟩

/-! ## Trees with the same names -/

/-- The same names stand for the same directories and nodes; the bytes of the nodes may be others. -/
structure SameNames (t t' : FileTree) : Prop where
  home : t'.home = t.home
  parents : t'.parents = t.parents
  entries : t'.entries = t.entries

theorem SameNames.refl (t : FileTree) : SameNames t t := ⟨rfl, rfl, rfl⟩

theorem SameNames.setContent (h : SameNames t t') (node : Nat) (bytes bytes' : List UInt8) :
    SameNames (t.setContent node bytes) (t'.setContent node bytes') := ⟨h.home, h.parents, h.entries⟩

/-- Following a path does not look at bytes. -/
theorem SameNames.openNode (h : SameNames t t') (path : Path) :
    t'.openNode false path = (t.openNode false path).map fun opened => (opened.1, t') := by
  obtain ⟨home, parents, entries, nodes⟩ := t
  obtain ⟨home', parents', entries', nodes'⟩ := t'
  obtain ⟨rfl, rfl, rfl⟩ := h
  have hlocate : locate ⟨home', parents', entries', nodes'⟩ path = locate ⟨home', parents', entries', nodes⟩ path := rfl
  have hfind : find ⟨home', parents', entries', nodes'⟩ = find ⟨home', parents', entries', nodes⟩ := rfl
  unfold FileTree.openNode
  rw [hlocate, hfind]
  cases locate ⟨home', parents', entries', nodes⟩ path with
  | error e => rfl
  | ok target =>
    cases target with
    | directory number => rfl
    | named place =>
      simp only [bind, Except.bind]
      cases find ⟨home', parents', entries', nodes⟩ place with
      | error e => rfl
      | ok found =>
        cases path.endsInSlash with
        | false => rcases found with _ | number | node <;> rfl
        | true => rcases found with _ | number | node <;> rfl

theorem SameNames.fileAt? (h : SameNames t t') (path : String) : t'.fileAt? path = t.fileAt? path := by
  rw [FileTree.fileAt?, FileTree.fileAt?, h.openNode]
  cases t.openNode false (.parse path) <;> rfl

end PostMortem.FileTree
