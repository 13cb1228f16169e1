import PostMortem.Config.Decode
import PostMortem.Proofs.Toml.Distinct

/-! # Reading a table field by field

A table is read one key after the other, in the order of their names. Since no name is there twice, what a field comes
to hold is what the table has under its name, or the default; and since a key is accepted or refused whatever was read
before it, a table is accepted if each of its keys is.

* `Entries.value?`, `Entries.sectionAt`: what a table has under a name.
* `Decode.exists_read`, `Decode.names_of_read`: which tables are accepted.
* `Decode.Field`: a field, in the step that reads one entry.
* `Decode.Field.read`: what the field holds after a whole table has been read.
* `Decode.named_eq_ok_iff`: which values are one of some names.
-/
set_option autoImplicit false

namespace PostMortem

open Toml

/-! ## Values of tables -/

namespace Toml.Entries

variable {entries other : Entries} {name : String} {node : Node}

/-- The value under a name. -/
def value? (entries : Entries) (name : String) : Option Node := (entries.get? name).map (·.2)

/-- The entries of the table under a name; none if there is no table. -/
def sectionAt (entries : Entries) (name : String) : Entries :=
  match entries.value? name with
  | some (.table _ inner) => inner
  | _ => []

theorem value?_eq_none_iff : entries.value? name = none ↔ name ∉ entries.names := by
  rw [value?, Option.map_eq_none_iff, get?_eq_none_iff]

theorem Distinct.value?_eq_some_iff (h : entries.Distinct) :
    entries.value? name = some node ↔ ∃ key mark, (key, mark, node) ∈ entries ∧ key.name = name := by
  rw [value?, Option.map_eq_some_iff]
  constructor
  · rintro ⟨⟨mark, node⟩, hget, rfl⟩
    obtain ⟨key, hentry, hname⟩ := mem_of_get? hget
    exact ⟨key, mark, hentry, hname⟩
  · rintro ⟨key, mark, hentry, rfl⟩
    exact ⟨(mark, node), h.get?_of_mem hentry, rfl⟩

theorem Distinct.perm (h : entries.Distinct) (hperm : other.Perm entries) : other.Distinct where
  nodup := (hperm.map _).nodup_iff.mpr h.nodup
  nodes := fun entry hentry => h.nodes entry (hperm.subset hentry)

/-- The order of the entries does not matter. -/
theorem Distinct.value?_perm (h : entries.Distinct) (hperm : other.Perm entries) (name : String) :
    other.value? name = entries.value? name := by
  refine Option.ext fun node => ?_
  rw [(h.perm hperm).value?_eq_some_iff, h.value?_eq_some_iff]
  simp only [hperm.mem_iff]

theorem sectionAt_of_none (h : entries.value? name = none) : entries.sectionAt name = [] := by
  rw [sectionAt, h]

theorem sectionAt_of_table {kind : TableKind} {inner : Entries} (h : entries.value? name = some (.table kind inner)) :
    entries.sectionAt name = inner := by
  rw [sectionAt, h]

theorem Distinct.sectionAt (h : entries.Distinct) (name : String) : (entries.sectionAt name).Distinct := by
  unfold Entries.sectionAt
  split
  · next kind inner hvalue =>
    obtain ⟨key, mark, hentry, -⟩ := h.value?_eq_some_iff.mp hvalue
    exact distinct_table_iff.mp (h.nodes _ hentry)
  · exact distinct_nil

end Toml.Entries

/-- A string as a value. -/
def Toml.Node.ofString (s : String) : Node := .scalar (.string s)

namespace Toml.Node

def isScalar : Node → Bool
  | .scalar _ => true
  | _ => false

def isTable : Node → Bool
  | .table .. => true
  | _ => false

theorem ofString_inj {s s' : String} : ofString s = ofString s' ↔ s = s' := by simp [ofString]

end Toml.Node

/-! ## Reading a table -/

namespace Decode

theorem insertSorted_perm (entry : Key × Mark × Node) (entries : Entries) :
    (insertSorted entry entries).Perm (entry :: entries) := by
  induction entries with
  | nil => exact .refl _
  | cons first rest ih =>
    rw [insertSorted]
    split
    · exact .refl _
    · exact (ih.cons first).trans (.swap ..)

theorem sorted_perm (entries : Entries) : (sorted entries).Perm entries := by
  have hfold : ∀ (rest acc : Entries),
      (rest.foldl (fun acc entry => insertSorted entry acc) acc).Perm (rest ++ acc) := by
    intro rest
    induction rest with
    | nil => exact fun acc => .refl _
    | cons entry rest ih =>
      intro acc
      have hmiddle : (rest ++ insertSorted entry acc).Perm (entry :: (rest ++ acc)) :=
        ((insertSorted_perm entry acc).append_left rest).trans List.perm_middle
      exact (ih _).trans hmiddle
  have hall := hfold entries []
  rwa [List.append_nil] at hall

variable {σ β : Type} {add : σ → Key × Mark × Node → Decoded σ} {entries : Entries} {s s' : σ}

theorem exists_foldlM (h : ∀ entry ∈ entries, ∀ s, ∃ s', add s entry = .ok s') (s : σ) :
    ∃ s', entries.foldlM add s = .ok s' := by
  induction entries generalizing s with
  | nil => exact ⟨s, rfl⟩
  | cons entry rest ih =>
    obtain ⟨hentry, hrest⟩ := List.forall_mem_cons.mp h
    obtain ⟨next, hnext⟩ := hentry s
    obtain ⟨last, hlast⟩ := ih hrest next
    exact ⟨last, by rw [List.foldlM_cons, Outcome.bind_eq_ok_iff]; exact ⟨next, hnext, hlast⟩⟩

theorem of_foldlM (h : entries.foldlM add s = .ok s') : ∀ entry ∈ entries, ∃ s s', add s entry = .ok s' := by
  induction entries generalizing s with
  | nil => exact fun entry hentry => absurd hentry List.not_mem_nil
  | cons entry rest ih =>
    rw [List.foldlM_cons, Outcome.bind_eq_ok_iff] at h
    obtain ⟨next, hnext, hrest⟩ := h
    exact List.forall_mem_cons.mpr ⟨⟨s, next, hnext⟩, ih hrest⟩

/-- A table is accepted if each value in it is accepted under its name, whatever was read before it. -/
theorem exists_read (hdistinct : entries.Distinct)
    (h : ∀ {key mark node}, key.name ∈ entries.names → entries.value? key.name = some node →
      ∀ s, ∃ s', add s (key, mark, node) = .ok s') (s : σ) :
    ∃ s', (sorted entries).foldlM add s = .ok s' := by
  refine exists_foldlM (fun ⟨key, mark, node⟩ hentry => ?_) s
  have hentry := (sorted_perm entries).mem_iff.mp hentry
  exact h (Entries.mem_names.mpr ⟨_, hentry, rfl⟩) (hdistinct.value?_eq_some_iff.mpr ⟨key, mark, hentry, rfl⟩)

/-- A table that is accepted has the names alone that are. -/
theorem names_of_read {fields : List String}
    (hfields : ∀ {s s' key mark node}, add s (key, mark, node) = .ok s' → key.name ∈ fields)
    (h : (sorted entries).foldlM add s = .ok s') : ∀ name ∈ entries.names, name ∈ fields := by
  intro name hname
  obtain ⟨⟨key, mark, node⟩, hentry, rfl⟩ := Entries.mem_names.mp hname
  obtain ⟨_, _, hadd⟩ := of_foldlM h _ ((sorted_perm entries).mem_iff.mpr hentry)
  exact hfields hadd

/-- What `get` gives is what is read under a name, and nothing else that is read changes it. -/
def Field (add : σ → Key × Mark × Node → Decoded σ) (name : String) (get : σ → β) (Holds : Node → β → Prop) : Prop :=
  ∀ {s s' key mark node}, add s (key, mark, node) = .ok s' →
    key.name = name ∧ Holds node (get s') ∨ key.name ≠ name ∧ get s' = get s

variable {name : String} {get : σ → β} {Holds : Node → β → Prop}

theorem Field.kept (hfield : Field add name get Holds) (hname : name ∉ entries.names)
    (h : entries.foldlM add s = .ok s') : get s' = get s := by
  induction entries generalizing s with
  | nil =>
    cases h
    rfl
  | cons entry rest ih =>
    rw [List.foldlM_cons, Outcome.bind_eq_ok_iff] at h
    obtain ⟨next, hnext, hrest⟩ := h
    rw [Entries.names, List.map_cons, List.mem_cons, not_or] at hname
    rcases hfield hnext with ⟨hsame, -⟩ | ⟨-, hkept⟩
    · exact absurd hsame.symm hname.1
    · rw [ih hname.2 hrest, hkept]

/-- A field holds what the table has under its name, or what it held before. -/
theorem Field.read (hfield : Field add name get Holds) (hdistinct : entries.Distinct)
    (h : (sorted entries).foldlM add s = .ok s') :
    (entries.value? name = none ∧ get s' = get s) ∨ ∃ node, entries.value? name = some node ∧ Holds node (get s') := by
  have hsorted := hdistinct.perm (sorted_perm entries)
  rw [← hdistinct.value?_perm (sorted_perm entries) name]
  generalize sorted entries = entries at h hsorted
  cases hvalue : entries.value? name with
  | none => exact .inl ⟨rfl, hfield.kept (Entries.value?_eq_none_iff.mp hvalue) h⟩
  | some node =>
    refine .inr ⟨node, rfl, ?_⟩
    obtain ⟨key, mark, hentry, hname⟩ := hsorted.value?_eq_some_iff.mp hvalue
    -- The entry splits the table; behind it the name does not come again.
    obtain ⟨before, after, hsplit⟩ := List.append_of_mem hentry
    subst hsplit
    rw [List.foldlM_append, Outcome.bind_eq_ok_iff] at h
    obtain ⟨reached, -, h⟩ := h
    rw [List.foldlM_cons, Outcome.bind_eq_ok_iff] at h
    obtain ⟨next, hnext, hafter⟩ := h
    have hlate : name ∉ Entries.names after := by
      have hnodup := hsorted.nodup
      rw [Entries.names, List.map_append, List.map_cons, List.nodup_append] at hnodup
      rw [← hname]
      exact (List.nodup_cons.mp hnodup.2.1).1
    rw [hfield.kept hlate hafter]
    rcases hfield hnext with ⟨-, hholds⟩ | ⟨hother, -⟩
    · exact hholds
    · exact absurd hname hother

end Decode

/-! ## Named values -/

/-- A name is looked up as what it is the name of, if that is so for each name that there is. -/
theorem find?_name_eq_some_iff {α : Type} {all : List α} {name : α → String}
    (hname : ∀ a, all.find? (fun b => name b == name a) = some a) {s : String} {a : α} :
    all.find? (fun b => name b == s) = some a ↔ s = name a := by
  constructor
  · intro hfind
    have hsame := List.find?_some hfind
    rw [beq_iff_eq] at hsame
    exact hsame.symm
  · rintro rfl
    exact hname a

theorem Severity.ofName?_eq_some_iff (s : String) (a : Severity) : ofName? s = some a ↔ s = a.name :=
  find?_name_eq_some_iff fun a => by cases a <;> simp [all, name]

theorem SinkKind.ofName?_eq_some_iff (s : String) (a : SinkKind) : ofName? s = some a ↔ s = a.name :=
  find?_name_eq_some_iff fun a => by cases a <;> simp [all, name]

theorem Backend.ofName?_eq_some_iff (s : String) (a : Backend) : ofName? s = some a ↔ s = a.name :=
  find?_name_eq_some_iff fun a => by cases a <;> simp [all, name]

theorem Severity.name_inj {a b : Severity} (h : a.name = b.name) : a = b :=
  Option.some.inj (((ofName?_eq_some_iff _ a).mpr rfl).symm.trans ((ofName?_eq_some_iff _ b).mpr h))

theorem SinkKind.name_inj {a b : SinkKind} (h : a.name = b.name) : a = b :=
  Option.some.inj (((ofName?_eq_some_iff _ a).mpr rfl).symm.trans ((ofName?_eq_some_iff _ b).mpr h))

theorem Backend.name_inj {a b : Backend} (h : a.name = b.name) : a = b :=
  Option.some.inj (((ofName?_eq_some_iff _ a).mpr rfl).symm.trans ((ofName?_eq_some_iff _ b).mpr h))

namespace Decode

theorem string_eq_ok_iff {expected : String} {mark : Mark} {node : Node} {s : String} :
    string expected mark node = .ok s ↔ node = .ofString s := by
  unfold string
  split
  · simp [Node.ofString, eq_comm]
  · next hother =>
    simp only [reduceCtorEq, false_iff]
    exact hother s

variable {α : Type} {ofName? : String → Option α} {names : List String} {label : α → String}

theorem named_ofString (hlabel : ∀ s a, ofName? s = some a ↔ s = label a) (mark : Mark) (a : α) :
    named ofName? names mark (.ofString (label a)) = .ok a := by
  rw [Node.ofString, named, byName, (hlabel _ a).mpr rfl]

theorem named_eq_ok_iff (hlabel : ∀ s a, ofName? s = some a ↔ s = label a) {mark : Mark} {node : Node}
    (hnode : node.isScalar = true) {a : α} : named ofName? names mark node = .ok a ↔ node = .ofString (label a) := by
  refine ⟨fun h => ?_, fun h => h ▸ named_ofString hlabel mark a⟩
  cases node with
  | array => cases hnode
  | tables => cases hnode
  | table => cases hnode
  | scalar value =>
    cases value with
    | string s =>
      rw [named, byName] at h
      split at h
      · next found hfound =>
        cases h
        rw [(hlabel s a).mp hfound, Node.ofString]
      · cases h
    | integer => cases h
    | real => cases h
    | boolean => cases h
    | dateTime => cases h

end Decode

theorem Severity.decode_ofString (mark : Mark) (a : Severity) : Severity.decode mark (.ofString a.name) = .ok a :=
  Decode.named_ofString ofName?_eq_some_iff mark a

theorem SinkKind.decode_ofString (mark : Mark) (a : SinkKind) : SinkKind.decode mark (.ofString a.name) = .ok a :=
  Decode.named_ofString ofName?_eq_some_iff mark a

theorem Backend.decode_ofString (mark : Mark) (a : Backend) : Backend.decode mark (.ofString a.name) = .ok a :=
  Decode.named_ofString ofName?_eq_some_iff mark a

/-- A field of a name that has a default holds what the table says or, if it says nothing, the default. -/
theorem Decode.Field.named {α : Type} {ofName? : String → Option α} {names : List String} {label : α → String}
    {σ : Type} {add : σ → Key × Mark × Node → Decoded σ} {name : String} {get : σ → α}
    (hfield : Field add name get fun node a => ∃ mark, Decode.named ofName? names mark node = .ok a)
    (hlabel : ∀ s a, ofName? s = some a ↔ s = label a) {entries : Entries} (hdistinct : entries.Distinct)
    (hscalar : (entries.value? name).all Node.isScalar = true) {s s' : σ}
    (h : (sorted entries).foldlM add s = .ok s') :
    (entries.value? name).getD (.ofString (label (get s))) = .ofString (label (get s')) := by
  rcases hfield.read hdistinct h with ⟨hnone, hget⟩ | ⟨node, hsome, mark, hnamed⟩
  · rw [hnone, Option.getD_none, hget]
  · rw [hsome, Option.all_some] at hscalar
    rw [hsome, Option.getD_some]
    exact (named_eq_ok_iff hlabel hscalar).mp hnamed

end PostMortem
