import Mathlib.Data.List.DropRight
import Mathlib.Data.List.Infix
import PostMortem.Proofs.FileTree.Growth

/-! # The directories above a file

The path of the directory above is what is left when the last name is dropped, and white space among the names with it:
empty ones and dots. Whoever finds a name at a path has walked through the directory above, so nothing is missing there.
To make directories is to follow the names and to put a directory where there is nothing yet; the names lead on to the
end afterwards, or else the attempt has failed.

* `Path.isPrefix_parent_names`: the names on the way to the directory above.
* `FileTree.IsDirectory`: a path that leads to a directory.
* `FileTree.makeDirectories_eq_ok_iff`, `FileTree.isDirectory_parent_of_locate`: where there is one.
* `FileTree.GainsDirectories`: what a tree gains when the directories above a file are made.
-/
set_option autoImplicit false

namespace PostMortem

namespace Path

variable {path : Path} {runs : List String} {name : String}

/-! ## The path of the directory above -/

theorem trimmed_eq_rdropWhile (runs : List String) :
    trimmed runs = runs.rdropWhile fun run => run == "" || run == "." := rfl

theorem isPrefix_trimmed (runs : List String) : trimmed runs <+: runs := List.rdropWhile_prefix _ _

theorem getLast?_trimmed_ne (runs : List String) : (trimmed runs).getLast? ≠ some "" := by
  intro h
  obtain ⟨init, hinit⟩ := List.getLast?_eq_some_iff.mp h
  have hne : trimmed runs ≠ [] := by simp [hinit]
  have hlast := List.rdropWhile_last_not (fun run => run == "" || run == ".") runs hne
  simp only [← trimmed_eq_rdropWhile, hinit, List.getLast_concat] at hlast
  exact hlast rfl

/-- Trimming stops at the last name, unless that is `.`. -/
theorem names_dropLast_trimmed (hlast : (runs.filter (· != "")).getLast? = some name) (hdot : name ≠ ".") :
    (trimmed runs).dropLast.filter (· != "") = (runs.filter (· != "")).dropLast := by
  induction runs using List.reverseRecOn with
  | nil => simp at hlast
  | append_singleton init last ih =>
    rw [trimmed_eq_rdropWhile]
    by_cases hempty : last = ""
    · have hskip : (init ++ [last]).filter (· != "") = init.filter (· != "") := by simp [hempty]
      rw [hskip] at hlast ⊢
      rw [List.rdropWhile_concat_pos _ _ _ (by simp [hempty])]
      exact ih hlast
    · have hkeep : (init ++ [last]).filter (· != "") = init.filter (· != "") ++ [last] := by simp [hempty]
      rw [hkeep, List.getLast?_concat] at hlast
      have hname : last = name := Option.some.inj hlast
      have hstop : ¬ (last == "" || last == ".") = true := by
        rw [hname] at hempty ⊢
        simp [hempty, hdot]
      rw [hkeep, List.rdropWhile_concat, if_neg hstop, List.dropLast_concat, List.dropLast_concat]

theorem isPrefix_parent_names (hlast : path.names.getLast? = some name) (hdot : name ≠ ".") :
    path.parent.names <+: path.names.dropLast := by
  have hnames : (trimmed path.runs).dropLast.filter (· != "") = path.names.dropLast :=
    names_dropLast_trimmed hlast hdot
  rw [← hnames]
  exact (isPrefix_trimmed _).filter _

theorem isPrefix_parent_runs (path : Path) : path.parent.runs <+: path.runs :=
  ((isPrefix_trimmed _).trans (List.dropLast_prefix _)).trans (isPrefix_trimmed _)

theorem length_parent_runs (path : Path) : path.parent.runs.length ≤ path.runs.length - 1 := by
  have houter := (isPrefix_trimmed (trimmed path.runs).dropLast).length_le
  have hinner := (isPrefix_trimmed path.runs).length_le
  rw [List.length_dropLast] at houter
  show (trimmed (trimmed path.runs).dropLast).length ≤ path.runs.length - 1
  omega

/-- The directory above is looked for from where the path starts. -/
theorem isAbsolute_parent (path : Path) : path.parent.isEmpty = true ∨ path.parent.isAbsolute = path.isAbsolute := by
  have hprefix := isPrefix_parent_runs path
  have hlength := length_parent_runs path
  have hlast : path.parent.runs.getLast? ≠ some "" := getLast?_trimmed_ne _
  simp only [isEmpty, isAbsolute, names]
  generalize path.parent.runs = above at *
  generalize path.runs = runs at *
  cases above with
  | nil => exact .inl rfl
  | cons first more =>
    right
    cases runs with
    | nil => simp at hlength
    | cons other rest =>
      obtain ⟨rfl, -⟩ := List.cons_prefix_cons.mp hprefix
      have hrest : rest ≠ [] := by
        rintro rfl
        simp at hlength
      cases more with
      | nil => simp_all
      | cons second more => simp [hrest]

theorem isPrefix_text {path' : Path} (h : path.runs <+: path'.runs) : path.text.toList <+: path'.text.toList := by
  rw [text, text]
  generalize path.runs = runs at h ⊢
  generalize path'.runs = runs' at h ⊢
  induction runs generalizing runs' with
  | nil => simp
  | cons run rest ih =>
    cases runs' with
    | nil => simp at h
    | cons run' rest' =>
      obtain ⟨rfl, hrest⟩ := List.cons_prefix_cons.mp h
      have hih := ih rest' hrest
      cases rest with
      | nil =>
        cases rest' with
        | nil => exact List.prefix_rfl
        | cons next more =>
          rw [String.intercalate_singleton, String.intercalate_cons_cons, String.toList_append, String.toList_append,
            List.append_assoc]
          exact List.prefix_append _ _
      | cons second more =>
        cases rest' with
        | nil => simp at hrest
        | cons second' more' =>
          obtain ⟨rfl, -⟩ := List.cons_prefix_cons.mp hrest
          simp only [String.intercalate_cons_cons, String.toList_append]
          exact (List.prefix_append_right_inj _).mpr hih

theorem size_parent_le (path : Path) : path.parent.size ≤ path.size := by
  have htext : path.parent.text.toList <+: path.text.toList := isPrefix_text (isPrefix_parent_runs path)
  exact (List.IsPrefix.flatMap htext String.utf8EncodeChar).length_le

theorem hasNull_parent (h : path.hasNull = false) : path.parent.hasNull = false := by
  rw [hasNull, List.any_eq_false] at h ⊢
  intro run hrun
  exact h run ((isPrefix_parent_runs path).subset hrun)

end Path

namespace FileTree
open Outcome

variable {t t' : FileTree} {path : Path}

theorem checkPath_eq_ok_iff :
    checkPath path = .ok () ↔ path.hasNull = false ∧ path.isEmpty = false ∧ path.size ≤ Path.sizeLimit := by
  unfold checkPath
  cases path.hasNull with
  | true => simp
  | false =>
    cases path.isEmpty with
    | true => simp
    | false => by_cases hsize : Path.sizeLimit < path.size <;> simp [hsize]; omega

/-! ## Directories on the way -/

/-- Every name on the way to a directory, and its own, is that of a directory. -/
def IsDirectory (t : FileTree) (path : Path) : Prop :=
  path.isEmpty = true ∨ checkPath path = .ok () ∧ ∃ number, path.names.foldlM t.enter (t.start path) = .ok number

theorem unused_mem_addDirectory (t : FileTree) (place : Place) : t.unused ∈ (t.addDirectory place).2.numbers := by
  simp [numbers, addDirectory]

theorem enter_addDirectory {directory : Nat} {name : String} (h : t.enter directory name = .error .noEntry) :
    (t.addDirectory ⟨directory, name⟩).2.enter directory name = .ok t.unused := by
  have hdot : name ≠ "." := by
    rintro rfl
    cases h
  have hdots : name ≠ ".." := by
    rintro rfl
    cases h
  have hshort : isTooLong name = false := by
    rw [enter, if_neg hdot, if_neg hdots, find] at h
    cases hlong : isTooLong name with
    | false => rfl
    | true =>
      simp only [hlong] at h
      cases h
  rw [enter_eq_ok_iff hdot hdots, find_eq_ok_iff]
  refine ⟨hshort, ?_⟩
  simp [named?, addDirectory]

/-- Names are followed to the end just if they all lead on in the tree that comes of it. -/
theorem makeAll_eq_ok_iff {directory : Nat} (hd : directory ∈ t.numbers) (missing : Bool) (names : List String) :
    (t.makeAll directory missing names).1 = .ok () ↔
      ∃ number, names.foldlM (t.makeAll directory missing names).2.enter directory = .ok number := by
  induction names generalizing t directory missing with
  | nil => exact iff_of_true rfl ⟨directory, rfl⟩
  | cons name rest ih =>
    rw [makeAll]
    cases henter : t.enter directory name with
    | ok number =>
      dsimp only
      have hlater := (extends_makeAll t number missing rest).enter hd henter
      rw [ih (enter_mem_numbers hd henter), List.foldlM_cons, hlater]
      rfl
    | error reason =>
      cases reason with
      | noEntry =>
        dsimp only
        have hd' := (extends_addDirectory (named?_eq_none_of_enter henter)).numbers directory hd
        have hlater := (extends_makeAll (t.addDirectory ⟨directory, name⟩).2 t.unused true rest).enter hd'
          (enter_addDirectory henter)
        have hnew := unused_mem_addDirectory t ⟨directory, name⟩
        show ((t.addDirectory ⟨directory, name⟩).2.makeAll t.unused true rest).1 = .ok () ↔
          ∃ number, (name :: rest).foldlM ((t.addDirectory ⟨directory, name⟩).2.makeAll t.unused true rest).2.enter
            directory = .ok number
        rw [ih hnew, List.foldlM_cons, hlater]
        rfl
      | _ =>
        dsimp only
        rw [List.foldlM_cons, henter]
        refine iff_of_false ?_ ?_ <;> simp [bind, Except.bind]

theorem makeAll_of_walk {directory number : Nat} {names : List String}
    (h : names.foldlM t.enter directory = .ok number) (missing : Bool) :
    t.makeAll directory missing names = (.ok (), t) := by
  induction names generalizing directory with
  | nil => rfl
  | cons name rest ih =>
    rw [List.foldlM_cons, bind_eq_ok_iff] at h
    obtain ⟨next, henter, hrest⟩ := h
    rw [makeAll, henter]
    exact ih hrest

theorem makeDirectories_of_isDirectory (h : t.IsDirectory path) : t.makeDirectories path = (.ok (), t) := by
  unfold makeDirectories
  rcases h with hempty | ⟨hcheck, number, hwalk⟩
  · rw [if_pos hempty]
  · rw [hcheck]
    dsimp only
    rw [makeAll_of_walk hwalk]
    simp [Except.mapError]

theorem makeDirectories_eq_ok_iff :
    (t.makeDirectories path).1 = .ok () ↔ (t.makeDirectories path).2.IsDirectory path := by
  by_cases hempty : path.isEmpty = true
  · have hmade : t.makeDirectories path = (.ok (), t) := makeDirectories_of_isDirectory (.inl hempty)
    rw [hmade]
    exact iff_of_true rfl (.inl hempty)
  · cases hcheck : checkPath path with
    | error e =>
      have hmade : t.makeDirectories path = (.error e, t) := by rw [makeDirectories, if_neg hempty, hcheck]
      rw [hmade]
      exact iff_of_false (by simp) (by simp [IsDirectory, hempty, hcheck])
    | ok _ =>
      have hmade : t.makeDirectories path =
          ((t.makeAll (t.start path) false path.names).1.mapError .system,
            (t.makeAll (t.start path) false path.names).2) := by
        rw [makeDirectories, if_neg hempty, hcheck]
      have hhome : (t.makeAll (t.start path) false path.names).2.start path = t.start path := by
        rw [start, (extends_makeAll t (t.start path) false path.names).home, ← start]
      rw [hmade]
      dsimp only
      rw [mapError_eq_ok_iff, makeAll_eq_ok_iff (start_mem_numbers t path)]
      simp [IsDirectory, hempty, hcheck, hhome]

/-- Where a path leads to a name, the directory above is there. -/
theorem isDirectory_parent_of_locate {place : Place} (h : t.locate path = .ok (.named place)) :
    t.IsDirectory path.parent := by
  simp only [locate, bind_eq_ok_iff, mapError_eq_ok_iff] at h
  obtain ⟨_, hcheck, directory, hwalk, hlast⟩ := h
  obtain ⟨hnull, -, hsize⟩ := checkPath_eq_ok_iff.mp hcheck
  by_cases hempty : path.parent.isEmpty = true
  · exact .inl hempty
  · have habsolute := (Path.isAbsolute_parent path).resolve_left hempty
    have hstart : t.start path.parent = t.start path := by rw [start, start, habsolute]
    have hchecked : checkPath path.parent = .ok () :=
      checkPath_eq_ok_iff.mpr ⟨Path.hasNull_parent hnull, by simpa using hempty, (Path.size_parent_le path).trans hsize⟩
    have hnamed : ∃ name, path.names.getLast? = some name ∧ name ≠ "." := by
      cases hname : path.names.getLast? with
      | none =>
        rw [hname] at hlast
        cases hlast
      | some name =>
        refine ⟨name, rfl, ?_⟩
        rintro rfl
        rw [hname] at hlast
        cases hlast
    obtain ⟨name, hname, hdot⟩ := hnamed
    obtain ⟨rest, hrest⟩ := Path.isPrefix_parent_names hname hdot
    rw [← hrest, List.foldlM_append, bind_eq_ok_iff] at hwalk
    obtain ⟨number, hparent, -⟩ := hwalk
    exact .inr ⟨hchecked, number, hstart ▸ hparent⟩

/-! ## What is made -/

/-- A tree has more directories than another one, and is the same otherwise. -/
structure GainsDirectories (t t' : FileTree) : Prop where
  kept : Extends t t'
  nodes : t'.nodes = t.nodes
  gained : ∀ place entry, t'.named? place = some entry → t.named? place = some entry ∨ ∃ n, entry = .directory n

theorem gained_makeAll (t : FileTree) (directory : Nat) (missing : Bool) (names : List String) {place : Place}
    {entry : Entry} (h : (t.makeAll directory missing names).2.named? place = some entry) :
    t.named? place = some entry ∨ ∃ n, entry = .directory n := by
  induction names generalizing t directory missing with
  | nil => exact .inl h
  | cons name rest ih =>
    rw [makeAll] at h
    split at h
    · exact ih _ _ _ h
    · rcases ih _ _ _ h with hadded | hdirectory
      · simp only [named?, List.lookup_cons] at hadded
        split at hadded
        · exact .inr ⟨_, (Option.some.inj hadded).symm⟩
        · exact .inl hadded
      · exact .inr hdirectory
    · exact .inl h
    · exact .inl h

theorem gainsDirectories_makeParents (t : FileTree) (path : Path) : GainsDirectories t (t.makeParents path).2 := by
  refine ⟨extends_makeParents t path, makeParents_nodes t path, fun place entry h => ?_⟩
  rw [makeParents, makeDirectories] at h
  split at h
  · exact .inl h
  · split at h
    · exact .inl h
    · exact gained_makeAll _ _ _ _ h

end FileTree
end PostMortem
