import PostMortem.Proofs.Text.Utf8
import PostMortem.Writer

/-! # What a writer takes

It makes no difference in how many pieces a text is written: a writer takes as many bytes of it as it has room for, and
fails exactly if that is not all of them.

* `Writer.Accepts`: whether there is room for some bytes.
* `Writer.after`: the writer once it has taken what it can of them.
* `Writer.writeAll_eq`: writing pieces of text.
-/
set_option autoImplicit false

namespace PostMortem.Writer

variable {w : Writer}

/-! ## Room -/

def Accepts (w : Writer) (bytes : List UInt8) : Prop := ∀ room ∈ w.room, bytes.length ≤ room

instance (w : Writer) (bytes : List UInt8) : Decidable (w.Accepts bytes) :=
  inferInstanceAs (Decidable (∀ room ∈ w.room, bytes.length ≤ room))

/-- The part of some bytes that there is room for. -/
def taken (w : Writer) (bytes : List UInt8) : List UInt8 :=
  match w.room with
  | none => bytes
  | some room => bytes.take room

/-- The writer after it has taken what it can. -/
def after (w : Writer) (bytes : List UInt8) : Writer :=
  { w with written := w.written ++ w.taken bytes, room := w.room.map fun room => room - bytes.length }

theorem accepts_of_room_none (h : w.room = none) (bytes : List UInt8) : w.Accepts bytes := by
  intro room hroom
  rw [h] at hroom
  cases hroom

theorem taken_of_accepts {bytes : List UInt8} (h : w.Accepts bytes) : w.taken bytes = bytes := by
  unfold taken
  split
  · rfl
  · rename_i room hroom
    exact List.take_of_length_le (h room hroom)

theorem taken_prefix (w : Writer) (bytes : List UInt8) : w.taken bytes <+: bytes := by
  unfold taken
  split
  · exact List.prefix_rfl
  · exact List.take_prefix _ _

theorem after_nil (w : Writer) : w.after [] = w := by
  obtain ⟨written, room, full, flushFailure⟩ := w
  cases room <;> simp [after, taken]

theorem accepts_append (w : Writer) (first second : List UInt8) :
    w.Accepts (first ++ second) ↔ w.Accepts first ∧ (w.after first).Accepts second := by
  obtain ⟨written, room, full, flushFailure⟩ := w
  cases room with
  | none => simp [Accepts, after]
  | some room =>
    simp only [Accepts, after, Option.mem_def, Option.some.injEq, forall_eq', Option.map_some, List.length_append]
    omega

theorem after_after (w : Writer) (first second : List UInt8) :
    (w.after first).after second = w.after (first ++ second) := by
  obtain ⟨written, room, full, flushFailure⟩ := w
  cases room with
  | none => simp [after, taken]
  | some room =>
    simp only [after, taken, Option.map_some, List.append_assoc, List.length_append, List.take_append, Nat.sub_sub]

theorem after_append_of_not_accepts {first : List UInt8} (h : ¬ w.Accepts first) (second : List UInt8) :
    w.after (first ++ second) = w.after first := by
  obtain ⟨written, room, full, flushFailure⟩ := w
  cases room with
  | none => exact absurd (accepts_of_room_none rfl first) h
  | some room =>
    have hroom : room < first.length := by simpa [Accepts] using h
    have hrest : room - first.length = 0 := by omega
    have hall : room - (first.length + second.length) = 0 := by omega
    simp only [after, taken, Option.map_some, List.length_append, List.take_append, hrest, hall, List.take_zero,
      List.append_nil]

/-! ## Writing -/

def outcome (w : Writer) (bytes : List UInt8) : Except IoError Unit :=
  if w.Accepts bytes then .ok () else .error w.full

theorem outcome_append {first : List UInt8} (h : w.Accepts first) (second : List UInt8) :
    w.outcome (first ++ second) = (w.after first).outcome second := by
  have hrest : w.Accepts (first ++ second) ↔ (w.after first).Accepts second :=
    (accepts_append w first second).trans (and_iff_right h)
  exact ite_congr (propext hrest) (fun _ => rfl) fun _ => rfl

theorem writeBytes_eq (w : Writer) (bytes : List UInt8) : w.writeBytes bytes = (w.outcome bytes, w.after bytes) := by
  obtain ⟨written, room, full, flushFailure⟩ := w
  cases room with
  | none => simp [writeBytes, outcome, after, taken, Accepts]
  | some room =>
    by_cases hroom : bytes.length ≤ room
    · simp [writeBytes, outcome, after, taken, Accepts, hroom]
    · simp [writeBytes, outcome, after, taken, Accepts, hroom]

/-- **Text is written up to the end of the room, whatever pieces it comes in.** -/
theorem writeAll_eq (w : Writer) (pieces : List String) :
    w.writeAll pieces =
      (w.outcome (pieces.flatMap Text.Utf8.encode), w.after (pieces.flatMap Text.Utf8.encode)) := by
  induction pieces generalizing w with
  | nil =>
    rw [List.flatMap_nil, after_nil, outcome, if_pos (by simp [Accepts])]
    rfl
  | cons piece rest ih =>
    rw [writeAll, write, writeBytes_eq, List.flatMap_cons]
    by_cases hpiece : w.Accepts (Text.Utf8.encode piece)
    · have hfirst : w.outcome (Text.Utf8.encode piece) = .ok () := if_pos hpiece
      rw [hfirst]
      dsimp only
      rw [ih, outcome_append hpiece, after_after]
    · -- the writer is full, so that the pieces that are not written any more make no difference
      have hall : ¬ w.Accepts (Text.Utf8.encode piece ++ rest.flatMap Text.Utf8.encode) :=
        fun h => hpiece ((accepts_append ..).mp h).1
      have hfirst : w.outcome (Text.Utf8.encode piece) = .error w.full := if_neg hpiece
      rw [hfirst]
      dsimp only
      rw [outcome, if_neg hall, after_append_of_not_accepts hpiece]

end PostMortem.Writer
