import Mathlib.Data.List.Nodup
import PostMortem.Proofs.Outcome
import PostMortem.Toml.Document

/-! # Names of tables

No table of a document has a name twice, however deep it lies and however its parts were written: a key is added to a
table only if its name is not there yet, and everything else that happens to a table leaves its names as they are or
takes one out.

* `Node.Distinct`, `Entries.Distinct`: every table has each of its names once.
* `Entries.atPath_distinct`: this is kept by a change far down if it is kept where the change is made.
* `document_distinct`: it holds in every document.
-/
set_option autoImplicit false

namespace PostMortem.Toml

/-- Every table in a node has each of its names once. -/
inductive Node.Distinct : Node → Prop
  | scalar {value : Scalar} : Distinct (.scalar value)
  | array {items : List (Mark × Node)} : (∀ item ∈ items, item.2.Distinct) → Distinct (.array items)
  | tables {items : List (Mark × Node)} : (∀ item ∈ items, item.2.Distinct) → Distinct (.tables items)
  | table {kind : TableKind} {entries : Entries} : (entries.map fun entry => entry.1.name).Nodup →
    (∀ entry ∈ entries, entry.2.2.Distinct) → Distinct (.table kind entries)

namespace Entries

def names (entries : Entries) : List String := entries.map fun entry => entry.1.name

/-- Every name is there once, and so are those of every table inside. -/
structure Distinct (entries : Entries) : Prop where
  nodup : entries.names.Nodup
  nodes : ∀ entry ∈ entries, entry.2.2.Distinct

theorem distinct_nil : Distinct [] := ⟨List.nodup_nil, fun _ hentry => absurd hentry List.not_mem_nil⟩

theorem distinct_table_iff {kind : TableKind} {entries : Entries} :
    (Node.table kind entries).Distinct ↔ entries.Distinct :=
  ⟨fun | .table hnodup hnodes => ⟨hnodup, hnodes⟩, fun h => .table h.nodup h.nodes⟩

theorem distinct_tables_iff {items : List (Mark × Node)} :
    (Node.tables items).Distinct ↔ ∀ item ∈ items, item.2.Distinct :=
  ⟨fun | .tables hitems => hitems, .tables⟩

theorem distinct_concat_item {items : List (Mark × Node)} (h : ∀ item ∈ items, item.2.Distinct) (mark : Mark)
    {node : Node} (hnode : node.Distinct) : ∀ item ∈ items ++ [(mark, node)], item.2.Distinct := by
  intro item hitem
  rcases List.mem_append.mp hitem with hitem | hitem
  · exact h item hitem
  · rw [List.mem_singleton.mp hitem]
    exact hnode

/-! ## What is under a name -/

variable {entries : Entries} {name : String} {mark : Mark} {node : Node}

theorem mem_names : name ∈ entries.names ↔ ∃ entry ∈ entries, entry.1.name = name := List.mem_map

theorem get?_eq_none_iff : entries.get? name = none ↔ name ∉ entries.names := by
  rw [get?, Option.map_eq_none_iff, List.find?_eq_none, mem_names]
  simp

theorem mem_of_get? (h : entries.get? name = some (mark, node)) :
    ∃ key : Key, (key, mark, node) ∈ entries ∧ key.name = name := by
  rw [get?, Option.map_eq_some_iff] at h
  obtain ⟨⟨key, found⟩, hfind, rfl⟩ := h
  exact ⟨key, List.mem_of_find?_eq_some hfind, by simpa using List.find?_some hfind⟩

/-- If the names are distinct, an entry is what is under its name. -/
theorem Distinct.get?_of_mem (h : entries.Distinct) {key : Key} (hentry : (key, mark, node) ∈ entries) :
    entries.get? key.name = some (mark, node) := by
  cases hget : entries.get? key.name with
  | none => exact absurd (mem_names.mpr ⟨_, hentry, rfl⟩) (get?_eq_none_iff.mp hget)
  | some found =>
    obtain ⟨foundMark, foundNode⟩ := found
    obtain ⟨other, hother, hname⟩ := mem_of_get? hget
    have hsame := List.inj_on_of_nodup_map h.nodup hother hentry hname
    cases hsame
    rfl

theorem Distinct.get? (h : entries.Distinct) (hget : entries.get? name = some (mark, node)) : node.Distinct := by
  obtain ⟨key, hentry, -⟩ := mem_of_get? hget
  exact h.nodes _ hentry

/-! ## Changes of one table -/

theorem names_replace (entries : Entries) (name : String) (node : Node) :
    (entries.replace name node).names = entries.names := by
  rw [names, replace, List.map_map, names]
  refine List.map_congr_left fun entry _ => ?_
  dsimp only [Function.comp_apply]
  split <;> rfl

theorem Distinct.replace (h : entries.Distinct) (name : String) (hnode : node.Distinct) :
    (entries.replace name node).Distinct where
  nodup := by
    rw [names_replace]
    exact h.nodup
  nodes := by
    intro entry hentry
    obtain ⟨old, hold, rfl⟩ := List.mem_map.mp hentry
    dsimp only
    split
    · exact hnode
    · exact h.nodes old hold

theorem Distinct.erase (h : entries.Distinct) (name : String) : (entries.erase name).Distinct where
  nodup := h.nodup.sublist (List.filter_sublist.map _)
  nodes := fun entry hentry => h.nodes entry (List.mem_filter.mp hentry).1

theorem Distinct.concat (h : entries.Distinct) {key : Key} (hkey : entries.get? key.name = none) (mark : Mark)
    (hnode : node.Distinct) : Distinct (entries ++ [(key, mark, node)]) where
  nodup := by
    rw [names, List.map_append, List.map_cons, List.map_nil, ← List.concat_eq_append]
    exact List.Nodup.concat (get?_eq_none_iff.mp hkey) h.nodup
  nodes := by
    intro entry hentry
    rcases List.mem_append.mp hentry with hentry | hentry
    · exact h.nodes entry hentry
    · rw [List.mem_singleton.mp hentry]
      exact hnode

/-! ## Changes further down -/

/-- A change further down leaves the names distinct if it does so where it is made. What it results in then has all
properties that the change itself brings with it. -/
theorem atPath_distinct {α : Type} {P : α → Prop} {dotted : Bool}
    {act : TableKind → Entries → Option (α × Entries)}
    (hact : ∀ {kind inner result changed}, Distinct inner → act kind inner = some (result, changed) →
      P result ∧ Distinct changed) :
    ∀ {path : List Key} {kind : TableKind} {entries : Entries} {result : α} {changed : Entries}, entries.Distinct →
      atPath dotted act path kind entries = some (result, changed) → P result ∧ changed.Distinct := by
  intro path
  -- On its way the path makes a table, goes into one, or goes into the last one of an array.
  induction path with
  | nil => exact fun h hat => hact h hat
  | cons key path ih =>
    intro kind entries result changed h hat
    rw [atPath] at hat
    split at hat
    · next hget =>
      simp only [Option.bind_eq_bind, Option.bind_eq_some_iff, Prod.exists, Option.some.injEq, Prod.mk.injEq] at hat
      obtain ⟨_, inner, hinner, rfl, rfl⟩ := hat
      obtain ⟨hresult, hdistinct⟩ := ih distinct_nil hinner
      exact ⟨hresult, h.concat hget _ (distinct_table_iff.mpr hdistinct)⟩
    · next kind inner hget =>
      split at hat
      · cases hat
      · simp only [Option.bind_eq_bind, Option.bind_eq_some_iff, Prod.exists, Option.some.injEq, Prod.mk.injEq] at hat
        obtain ⟨_, inner, hinner, rfl, rfl⟩ := hat
        obtain ⟨hresult, hdistinct⟩ := ih (distinct_table_iff.mp (h.get? hget)) hinner
        exact ⟨hresult, h.replace _ (distinct_table_iff.mpr hdistinct)⟩
    · next items hget =>
      split at hat
      · next mark kind inner hlast =>
        simp only [Option.bind_eq_bind, Option.bind_eq_some_iff, Prod.exists, Option.some.injEq, Prod.mk.injEq] at hat
        obtain ⟨_, inner, hinner, rfl, rfl⟩ := hat
        have hitems := distinct_tables_iff.mp (h.get? hget)
        have hlast := hitems _ (List.mem_of_getLast? hlast)
        obtain ⟨hresult, hdistinct⟩ := ih (distinct_table_iff.mp hlast) hinner
        refine ⟨hresult, h.replace _ (distinct_tables_iff.mpr ?_)⟩
        exact distinct_concat_item (fun item hitem => hitems item (List.dropLast_subset _ hitem)) _
          (distinct_table_iff.mpr hdistinct)
      · cases hat
    · cases hat

/-! ## Statements -/

theorem assign_distinct {kind : TableKind} {path : List Key} {key : Key} {changed : Entries} (h : entries.Distinct)
    (hnode : node.Distinct) (hassign : entries.assign kind path key mark node = some changed) : changed.Distinct := by
  rw [assign, Option.map_eq_some_iff] at hassign
  obtain ⟨⟨_, changed⟩, hat, rfl⟩ := hassign
  refine (atPath_distinct (P := fun _ => True) ?_ h hat).2
  intro kind inner _ changed hinner hact
  split at hact
  · cases hact
  · next hfree =>
    simp only [Bool.or_eq_true, not_or, Bool.not_eq_true, Option.isSome_eq_false_iff,
      Option.isNone_iff_eq_none] at hfree
    cases hact
    exact ⟨trivial, hinner.concat hfree.2 mark hnode⟩

theorem reopen_distinct {path : List Key} {key : Key} {table changed : Entries} (h : entries.Distinct)
    (hreopen : entries.reopen path key = some (table, changed)) : table.Distinct ∧ changed.Distinct := by
  refine atPath_distinct (P := Distinct) ?_ h hreopen
  intro kind inner table changed hinner hact
  split at hact
  · cases hact
    exact ⟨distinct_nil, hinner⟩
  · next hget =>
    split at hact
    · cases hact
      exact ⟨distinct_table_iff.mp (hinner.get? hget), hinner.erase _⟩
    · cases hact
  · cases hact

theorem place_distinct {path : List Key} {key : Key} {table changed : Entries} (h : entries.Distinct)
    (htable : table.Distinct) (hplace : entries.place path key mark table = some changed) : changed.Distinct := by
  rw [place, Option.map_eq_some_iff] at hplace
  obtain ⟨⟨_, changed⟩, hat, rfl⟩ := hplace
  refine (atPath_distinct (P := fun _ => True) ?_ h hat).2
  intro kind inner _ changed hinner hact
  split at hact
  · cases hact
  · next hfree =>
    rw [Bool.not_eq_true, Option.isSome_eq_false_iff, Option.isNone_iff_eq_none] at hfree
    cases hact
    exact ⟨trivial, hinner.concat hfree mark (distinct_table_iff.mpr htable)⟩

theorem append_distinct {path : List Key} {key : Key} {table changed : Entries} (h : entries.Distinct)
    (htable : table.Distinct) (happend : entries.append path key mark table = some changed) : changed.Distinct := by
  have hitem : (Node.table {} table).Distinct := distinct_table_iff.mpr htable
  rw [append, Option.map_eq_some_iff] at happend
  obtain ⟨⟨_, changed⟩, hat, rfl⟩ := happend
  refine (atPath_distinct (P := fun _ => True) ?_ h hat).2
  intro kind inner _ changed hinner hact
  split at hact
  · next hfree =>
    cases hact
    refine ⟨trivial, hinner.concat hfree mark (distinct_tables_iff.mpr ?_)⟩
    exact List.forall_mem_singleton.mpr hitem
  · next items hget =>
    cases hact
    refine ⟨trivial, hinner.replace _ (distinct_tables_iff.mpr ?_)⟩
    exact distinct_concat_item (distinct_tables_iff.mp (hinner.get? hget)) mark hitem
  · cases hact

end Entries

/-! ## Values -/

theorem need_eq_ok_iff {α : Type} {x : Option α} {a : α} : need x = .ok a ↔ x = some a := by
  cases x <;> simp [need]

mutual

theorem Outline.node_distinct : ∀ {outline : Outline} {node : Node}, outline.node = .ok node → node.Distinct
  | .scalar text, node, h => by
    rw [Outline.node, Outcome.map_eq_ok_iff] at h
    obtain ⟨value, -, rfl⟩ := h
    exact .scalar
  | .array items, node, h => by
    rw [Outline.node, Outcome.map_eq_ok_iff] at h
    obtain ⟨nodes, hnodes, rfl⟩ := h
    exact .array (itemNodes_distinct hnodes)
  | .braces entries, node, h => by
    rw [Outline.node, Outcome.map_eq_ok_iff] at h
    obtain ⟨entries, hentries, rfl⟩ := h
    exact Entries.distinct_table_iff.mpr (assignAll_distinct Entries.distinct_nil hentries)

theorem itemNodes_distinct : ∀ {items : List (Mark × Outline)} {nodes : List (Mark × Node)},
    itemNodes items = .ok nodes → ∀ item ∈ nodes, item.2.Distinct
  | [], nodes, h => by
    rw [itemNodes] at h
    cases h
    exact fun _ hitem => absurd hitem List.not_mem_nil
  | (mark, item) :: rest, nodes, h => by
    rw [itemNodes, Outcome.bind_eq_ok_iff] at h
    obtain ⟨node, hnode, h⟩ := h
    rw [Outcome.bind_eq_ok_iff] at h
    obtain ⟨others, hothers, h⟩ := h
    cases h
    exact List.forall_mem_cons.mpr ⟨item.node_distinct hnode, itemNodes_distinct hothers⟩

theorem assignAll_distinct : ∀ {rest : List (Name × Mark × Outline)} {entries changed : Entries},
    entries.Distinct → assignAll entries rest = .ok changed → changed.Distinct
  | [], entries, changed, h, hassign => by
    rw [assignAll] at hassign
    cases hassign
    exact h
  | (name, mark, value) :: rest, entries, changed, h, hassign => by
    rw [assignAll, Outcome.bind_eq_ok_iff] at hassign
    obtain ⟨⟨path, key⟩, -, hassign⟩ := hassign
    simp only [Outcome.bind_eq_ok_iff, need_eq_ok_iff] at hassign
    obtain ⟨node, hnode, next, hnext, hassign⟩ := hassign
    exact assignAll_distinct (Entries.assign_distinct h (value.node_distinct hnode) hnext) hassign

end

/-! ## Documents -/

/-- The tables under construction have each of their names once. -/
structure Builder.Distinct (b : Builder) : Prop where
  root : b.root.Distinct
  current : b.current.Distinct

theorem Builder.Distinct.close {b : Builder} (h : b.Distinct) {entries : Entries} (hclose : b.close = some entries) :
    entries.Distinct := by
  rw [Builder.close] at hclose
  split at hclose
  · cases hclose
    exact h.current
  · split at hclose
    · exact Entries.append_distinct h.root h.current hclose
    · exact Entries.place_distinct h.root h.current hclose

theorem Builder.Distinct.add {b next : Builder} (h : b.Distinct) {statement : Statement}
    (hadd : b.add statement = .ok next) : next.Distinct := by
  cases statement with
  | assignment name mark value =>
    simp only [Builder.add, Outcome.bind_eq_ok_iff, need_eq_ok_iff] at hadd
    obtain ⟨⟨path, key⟩, -, node, hnode, current, hcurrent, hadd⟩ := hadd
    cases hadd
    exact ⟨h.root, Entries.assign_distinct h.current (value.node_distinct hnode) hcurrent⟩
  | header repeated name mark =>
    simp only [Builder.add, Outcome.bind_eq_ok_iff, need_eq_ok_iff] at hadd
    obtain ⟨root, hclose, ⟨path, key⟩, -, hadd⟩ := hadd
    have hroot := h.close hclose
    split at hadd
    · cases hadd
      exact ⟨hroot, Entries.distinct_nil⟩
    · rw [Outcome.bind_eq_ok_iff] at hadd
      obtain ⟨⟨current, root⟩, hreopen, hadd⟩ := hadd
      cases hadd
      obtain ⟨hcurrent, hroot⟩ := Entries.reopen_distinct hroot (need_eq_ok_iff.mp hreopen)
      exact ⟨hroot, hcurrent⟩

theorem Builder.Distinct.addAll {statements : List Statement} : ∀ {b last : Builder}, b.Distinct →
    statements.foldlM Builder.add b = .ok last → last.Distinct := by
  induction statements with
  | nil =>
    intro b last h hadd
    cases hadd
    exact h
  | cons statement rest ih =>
    intro b last h hadd
    rw [List.foldlM_cons, Outcome.bind_eq_ok_iff] at hadd
    obtain ⟨next, hnext, hrest⟩ := hadd
    exact ih (h.add hnext) hrest

/-- **No table of a document has a name twice.** -/
theorem document_distinct {text : List Char} {entries : Entries} (h : document text = .ok entries) :
    entries.Distinct := by
  simp only [document, Outcome.bind_eq_ok_iff, need_eq_ok_iff] at h
  obtain ⟨statements, -, last, hlast, hclose⟩ := h
  have hempty : ({} : Builder).Distinct := ⟨Entries.distinct_nil, Entries.distinct_nil⟩
  exact (hempty.addAll hlast).close hclose

end PostMortem.Toml
