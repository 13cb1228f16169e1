import PostMortem.Proofs.Store.Opening

/-! # What becomes of the sizes of files

Whoever works on a file tree by way of record files does one of four things in a step: names change, a record file is
opened, it is saved to, or it is cleared. Only an opening can resize a file, and only one that is empty, which gets the
size of a record file.
-/
set_option autoImplicit false

namespace PostMortem
open FileTree MappedRecord

/-- One step of work on record files and on names. -/
inductive RecordWork : FileTree → FileTree → Prop
  | names {t t' : FileTree} : SameContents t t' → RecordWork t t'
  | opens (path : String) (t : FileTree) : RecordWork t (openOrCreate path t).2
  | saves (m : MappedRecord) (record : FaultRecord) (t : FileTree) : RecordWork t (m.save record t)
  | clears (m : MappedRecord) (t : FileTree) : RecordWork t (m.clear t)

namespace RecordWork

variable {t t' : FileTree}

theorem nothing (t : FileTree) : RecordWork t t := .names (SameContents.refl t)

theorem length_eq_or (h : RecordWork t t') (node : Nat) :
    (t'.content node).length = (t.content node).length ∨
      t.content node = [] ∧ t'.content node = Image.blank := by
  cases h with
  | names hsame => exact .inl (congrArg List.length (hsame node))
  | opens path => exact (openOrCreate_fills path t node).imp_left (congrArg List.length)
  | saves m record =>
    left
    rw [content_save]
    split
    · rename_i hnode
      rw [Image.length_save, hnode]
    · rfl
  | clears m =>
    left
    rw [content_clear]
    split
    · rename_i hnode
      rw [Image.length_clear, hnode]
    · rfl

theorem keepsSizes (h : RecordWork t t') : KeepsSizes t t' := by
  intro node hsize
  rcases h.length_eq_or node with hlength | ⟨hempty, -⟩
  · rw [hlength, hsize]
  · rw [hempty] at hsize
    cases hsize

end RecordWork
end PostMortem
