import PostMortem.Inspector.Arguments

/-! # Switches of the log on a command line

Two switches say how a run is logged. Each may stand once, wherever an option may begin, and it has no effect on the
other options: a command line with it is accepted exactly if it is accepted without it and does not have it elsewhere.

* `LogSwitch`: the two switches, and the words for them.
* `Progress.All`: what holds of the options whatever is read, if it holds of those that single words make.
* `LogSwitch.Ahead`: reading with a switch that has been taken up before, beside reading without it.
* `LogSwitch.parse_without`, `LogSwitch.parse_with`: command lines that differ in a word for a switch.
-/
set_option autoImplicit false

namespace PostMortem.Inspector

/-- The switches that say how a run is logged. -/
inductive LogSwitch
  | verbose | json
deriving DecidableEq, Repr

namespace LogSwitch

/-- The words for a switch. -/
def words : LogSwitch → List String
  | verbose => ["-v", "--verbose"]
  | json => ["--json"]

def switch : LogSwitch → Switch
  | verbose => .verbose
  | json => .json

def isOn : LogSwitch → Options → Bool
  | verbose, o => o.verbose
  | json, o => o.json

/-- Options with a switch on. -/
def turn : LogSwitch → Options → Options
  | verbose, o => { o with verbose := true }
  | json, o => { o with json := true }

theorem turnOn_switch (s : LogSwitch) (o : Options) :
    o.turnOn s.switch = if s.isOn o then .over .misuse else .ready (s.turn o) := by
  cases s <;> rfl

end LogSwitch

/-! ## Properties of options that reading keeps -/

/-- The options so far have a property; there is no other end than an error or a request for a text. -/
def Progress.All (P : Options → Prop) : Progress → Prop
  | .ready o => P o
  | .awaiting _ o => P o
  | .over request => ∀ o, request ≠ .inspect o

/-- A property that no option takes away. -/
structure Kept (P : Options → Prop) : Prop where
  config : ∀ {o}, P o → ∀ value, P { o with config := some value }
  store : ∀ {o}, P o → ∀ value, P { o with store := some value }
  clear : ∀ {o}, P o → P { o with clear := true }
  turn : ∀ {o}, P o → ∀ s : LogSwitch, P (s.turn o)

namespace Kept

variable {P : Options → Prop} {o : Options} {p : Progress}

theorem set (h : Kept P) (ho : P o) (which : Setting) (value : String) : (o.set which value).All P := by
  unfold Options.set
  split
  · exact nofun
  · cases which with
    | config =>
      dsimp only
      split
      · exact nofun
      · exact h.config ho value
    | store =>
      dsimp only
      split
      · exact nofun
      · exact h.store ho value

theorem turnOn (h : Kept P) (ho : P o) (switch : Switch) : (o.turnOn switch).All P := by
  have hlog : ∀ s : LogSwitch, (o.turnOn s.switch).All P := by
    intro s
    rw [s.turnOn_switch]
    split
    · exact nofun
    · exact h.turn ho s
  cases switch with
  | clear =>
    rw [Options.turnOn]
    split
    · exact nofun
    · exact h.clear ho
  | verbose => exact hlog .verbose
  | json => exact hlog .json
  | help => exact nofun
  | version => exact nofun

theorem takeLetters (h : Kept P) (ho : P o) (letters : List Char) : (o.takeLetters letters).All P := by
  induction letters generalizing o with
  | nil => exact ho
  | cons letter rest ih =>
    rw [Options.takeLetters]
    split
    · rename_i which _
      have hturned := h.turnOn ho which
      split
      · rename_i hready
        rw [hready] at hturned
        exact ih hturned
      · exact hturned
    · split
      · exact ho
      · exact h.set ho _ _
      · exact h.set ho _ _
    · exact nofun

theorem takeLong (h : Kept P) (ho : P o) (word : List Char) : (o.takeLong word).All P := by
  unfold Options.takeLong
  dsimp only
  split
  · exact h.set ho _ _
  · exact ho
  · exact h.turnOn ho _
  · exact nofun

theorem takeWord (h : Kept P) (ho : P o) (word : String) : (o.takeWord word).All P := by
  unfold Options.takeWord
  split
  · exact h.takeLong ho _
  · exact h.takeLetters ho _
  · exact nofun

theorem finish (h : Kept P) (hp : p.All P) {words : List String} (hend : p.finish words = .inspect o) : P o := by
  induction words generalizing p with
  | nil =>
    cases p with
    | ready o' =>
      cases hend
      exact hp
    | awaiting which o' => cases hend
    | «over» request => exact absurd hend (hp o)
  | cons word rest ih =>
    cases p with
    | ready o' =>
      rw [Progress.finish] at hend
      split at hend
      · split at hend
        · cases hend
          exact hp
        · cases hend
      · exact ih (h.takeWord hp word) hend
    | awaiting which o' =>
      rw [Progress.finish] at hend
      split at hend
      · cases hend
      · exact ih (h.set hp which word) hend
    | «over» request => exact absurd hend (hp o)

end Kept

theorem kept_true : Kept fun _ => True := ⟨fun _ _ => trivial, fun _ _ => trivial, fun _ => trivial, fun _ _ => trivial⟩

namespace LogSwitch

variable {s : LogSwitch} {o o' : Options} {p p' : Progress} {word : String}

theorem turn_config (s : LogSwitch) (o : Options) : (s.turn o).config = o.config := by cases s <;> rfl

theorem turn_store (s : LogSwitch) (o : Options) : (s.turn o).store = o.store := by cases s <;> rfl

theorem turn_clear (s : LogSwitch) (o : Options) : (s.turn o).clear = o.clear := by cases s <;> rfl

theorem isOn_turn (s other : LogSwitch) (o : Options) : s.isOn (other.turn o) = (s.isOn o || s == other) := by
  cases s <;> cases other <;> simp [isOn, turn]

theorem turn_comm (s other : LogSwitch) (o : Options) : s.turn (other.turn o) = other.turn (s.turn o) := by
  cases s <;> cases other <;> rfl

theorem kept_isOn (s : LogSwitch) : Kept fun o => s.isOn o = true where
  config h value := by cases s <;> exact h
  store h value := by cases s <;> exact h
  clear h := by cases s <;> exact h
  turn h other := by rw [isOn_turn, h, Bool.true_or]

/-! ## A switch that has been taken up before -/

/-- How far reading is with a switch on from before, beside how far it is without it. -/
inductive Ahead (s : LogSwitch) : Progress → Progress → Prop
  | ready {o : Options} : s.isOn o = false → Ahead s (.ready o) (.ready (s.turn o))
  | awaiting {which : Setting} {o : Options} : s.isOn o = false →
    Ahead s (.awaiting which o) (.awaiting which (s.turn o))
  /-- The switch has come again, or there was an end anyway. -/
  | stopped {p : Progress} {request : Request} :
    p.All (fun o => s.isOn o = true) → (∀ o, request ≠ .inspect o) → Ahead s p (.over request)

theorem Ahead.misuse : Ahead s (.over .misuse) (.over .misuse) := .stopped nofun nofun

theorem ahead_set (h : s.isOn o = false) (which : Setting) (value : String) :
    Ahead s (o.set which value) ((s.turn o).set which value) := by
  unfold Options.set
  split
  · exact .misuse
  · cases which with
    | config =>
      dsimp only
      rw [turn_config]
      split
      · exact .misuse
      · cases s <;> exact .ready h
    | store =>
      dsimp only
      rw [turn_store]
      split
      · exact .misuse
      · cases s <;> exact .ready h

/-- The switch itself comes, or another one. -/
theorem ahead_turnOn (h : s.isOn o = false) (switch : Switch) :
    Ahead s (o.turnOn switch) ((s.turn o).turnOn switch) := by
  have hlog : ∀ other : LogSwitch, Ahead s (o.turnOn other.switch) ((s.turn o).turnOn other.switch) := by
    intro other
    rw [turnOn_switch, turnOn_switch, isOn_turn]
    cases hother : other.isOn o with
    | true => exact .misuse
    | false =>
      by_cases hsame : other = s
      · subst hsame
        have hagain : Ahead other (.ready (other.turn o)) (.over .misuse) :=
          .stopped (by simp [Progress.All, isOn_turn]) nofun
        simpa using hagain
      · have hoff : s.isOn (other.turn o) = false := by simp [isOn_turn, h, Ne.symm hsame]
        simpa [hsame, turn_comm other s] using Ahead.ready hoff
  cases switch with
  | clear =>
    rw [Options.turnOn, Options.turnOn, turn_clear]
    split
    · exact .misuse
    · cases s <;> exact .ready h
  | verbose => exact hlog .verbose
  | json => exact hlog .json
  | help => exact .stopped nofun nofun
  | version => exact .stopped nofun nofun

theorem ahead_takeLetters (h : s.isOn o = false) (letters : List Char) :
    Ahead s (o.takeLetters letters) ((s.turn o).takeLetters letters) := by
  induction letters generalizing o with
  | nil => exact .ready h
  | cons letter rest ih =>
    rw [Options.takeLetters, Options.takeLetters]
    split
    · rename_i which _
      have hturned := ahead_turnOn h which
      generalize o.turnOn which = p at hturned ⊢
      generalize (s.turn o).turnOn which = p' at hturned ⊢
      cases hturned with
      | ready hoff => exact ih hoff
      | awaiting hoff => exact .awaiting hoff
      | stopped hon hend =>
        refine .stopped ?_ hend
        cases p with
        | ready o' => exact (kept_isOn s).takeLetters hon rest
        | awaiting which o' => exact hon
        | «over» request => exact hon
    · split
      · exact .awaiting h
      · exact ahead_set h _ _
      · exact ahead_set h _ _
    · exact .misuse

theorem ahead_takeLong (h : s.isOn o = false) (word : List Char) :
    Ahead s (o.takeLong word) ((s.turn o).takeLong word) := by
  unfold Options.takeLong
  dsimp only
  split
  · exact ahead_set h _ _
  · exact .awaiting h
  · exact ahead_turnOn h _
  · exact .misuse

theorem ahead_takeWord (h : s.isOn o = false) (word : String) :
    Ahead s (o.takeWord word) ((s.turn o).takeWord word) := by
  unfold Options.takeWord
  split
  · exact ahead_takeLong h _
  · exact ahead_takeLetters h _
  · exact .misuse

/-! ## To the end of a command line -/

/-- A request for an inspection with a switch on, and the one without it. -/
def Beside (s : LogSwitch) (request request' : Request) : Prop :=
  ∀ o', request' = .inspect o' ↔ ∃ o, request = .inspect o ∧ s.isOn o = false ∧ o' = s.turn o

theorem beside_misuse (s : LogSwitch) : Beside s .misuse .misuse := by simp [Beside]

theorem beside_inspect (h : s.isOn o = false) : Beside s (.inspect o) (.inspect (s.turn o)) := by
  intro o'
  constructor
  · intro heq
    exact ⟨o, rfl, h, (Request.inspect.inj heq).symm⟩
  · rintro ⟨other, heq, -, rfl⟩
    rw [Request.inspect.inj heq]

theorem finish_over (request : Request) (words : List String) : (Progress.over request).finish words = request := by
  cases words <;> rfl

theorem beside_over {request : Request} (hon : p.All fun o => s.isOn o = true) (hend : ∀ o, request ≠ .inspect o)
    (words : List String) : Beside s (p.finish words) request := by
  refine fun o' => iff_of_false (hend o') ?_
  rintro ⟨o, hfinish, hoff, -⟩
  have hkept : s.isOn o = true := (kept_isOn s).finish hon hfinish
  rw [hoff] at hkept
  cases hkept

theorem Ahead.finish (h : Ahead s p p') (words : List String) : Beside s (p.finish words) (p'.finish words) := by
  induction words generalizing p p' with
  | nil =>
    cases h with
    | ready hoff => exact beside_inspect hoff
    | awaiting hoff => exact beside_misuse s
    | stopped hon hend => exact beside_over hon hend []
  | cons word rest ih =>
    cases h with
    | ready hoff =>
      rw [Progress.finish, Progress.finish]
      split
      · split
        · exact beside_inspect hoff
        · exact beside_misuse s
      · exact ih (ahead_takeWord hoff word)
    | awaiting hoff =>
      rw [Progress.finish, Progress.finish]
      split
      · exact beside_misuse s
      · exact ih (ahead_set hoff _ word)
    | stopped hon hend =>
      rw [finish_over]
      exact beside_over hon hend _

/-! ## Words for a switch -/

theorem mem_words (h : word ∈ s.words) :
    s = .verbose ∧ word = "-v" ∨ s = .verbose ∧ word = "--verbose" ∨ s = .json ∧ word = "--json" := by
  cases s <;> simpa [words] using h

theorem looksLikeOption_word (h : word ∈ s.words) : looksLikeOption word = true ∧ word ≠ "--" := by
  rcases mem_words h with ⟨-, rfl⟩ | ⟨-, rfl⟩ | ⟨-, rfl⟩ <;> decide

theorem takeWord_word (h : word ∈ s.words) (o : Options) : o.takeWord word = o.turnOn s.switch := by
  rcases mem_words h with ⟨rfl, rfl⟩ | ⟨rfl, rfl⟩ | ⟨rfl, rfl⟩
  · have hletters : o.takeWord "-v" = o.takeLetters ['v'] := rfl
    have hmeaning : Meaning.ofLetter? 'v' = some (.switch .verbose) := rfl
    rw [hletters, Options.takeLetters, hmeaning, switch]
    dsimp only
    cases o.turnOn .verbose <;> rfl
  · rfl
  · rfl

/-- A word for a switch counts where an option may begin. -/
theorem beside_word (hword : word ∈ s.words) (o : Options) (after : List String) :
    Beside s ((Progress.ready o).finish after) ((Progress.ready o).finish (word :: after)) := by
  rw [Progress.finish, if_neg (looksLikeOption_word hword).2, takeWord_word hword, turnOn_switch]
  cases hon : s.isOn o with
  | true =>
    have hagain : Ahead s (.ready o) (.over .misuse) := .stopped hon nofun
    rw [if_pos rfl]
    exact hagain.finish after
  | false => exact (Ahead.ready hon).finish after

/-- Reading has got to where an option may begin if it does not fail at a word that cannot be a value. -/
theorem exists_ready {before rest : List String} (hp : p.All fun _ => True)
    (hrest : ∀ word ∈ rest.head?, looksLikeOption word = true) (hends : rest = [] → "--" ∉ before)
    (h : p.finish (before ++ rest) = .inspect o') :
    ∃ o, ∀ further, p.finish (before ++ further) = (Progress.ready o).finish further := by
  induction before generalizing p with
  | nil =>
    cases p with
    | ready o => exact ⟨o, fun _ => rfl⟩
    | awaiting which o =>
      cases rest with
      | nil => cases h
      | cons word rest =>
        rw [List.nil_append, Progress.finish, if_pos (hrest word rfl)] at h
        cases h
    | «over» request =>
      rw [finish_over] at h
      exact absurd h (hp o')
  | cons word before ih =>
    have hends' : rest = [] → "--" ∉ before := fun hnil hmem => hends hnil (List.mem_cons_of_mem _ hmem)
    cases p with
    | ready o =>
      rw [List.cons_append, Progress.finish] at h
      split at h
      · rename_i hmark
        split at h
        · rename_i hempty
          have hnil := List.append_eq_nil_iff.mp (List.isEmpty_iff.mp hempty)
          exact absurd (hmark ▸ List.mem_cons_self) (hends hnil.2)
        · cases h
      · rename_i hmark
        obtain ⟨o₁, hready⟩ := ih (kept_true.takeWord trivial word) hends' h
        refine ⟨o₁, fun further => ?_⟩
        rw [List.cons_append, Progress.finish, if_neg hmark, hready]
    | awaiting which o =>
      rw [List.cons_append, Progress.finish] at h
      split at h
      · cases h
      · rename_i hvalue
        obtain ⟨o₁, hready⟩ := ih (kept_true.set trivial which word) hends' h
        refine ⟨o₁, fun further => ?_⟩
        rw [List.cons_append, Progress.finish, if_neg hvalue, hready]
    | «over» request =>
      rw [finish_over] at h
      exact absurd h (hp o')

/-- A word for a switch can be left out. -/
theorem parse_without (hword : word ∈ s.words) {before after : List String}
    (h : Request.parse (before ++ word :: after) = .inspect o') :
    ∃ o, Request.parse (before ++ after) = .inspect o ∧ s.isOn o = false ∧ o' = s.turn o := by
  have hrest : ∀ first ∈ (word :: after).head?, looksLikeOption first = true := by
    intro first hfirst
    rw [List.head?_cons, Option.mem_some_iff] at hfirst
    exact hfirst ▸ (looksLikeOption_word hword).1
  obtain ⟨o₁, hready⟩ := exists_ready (p := .ready {}) trivial hrest nofun h
  rw [Request.parse, hready] at h ⊢
  exact (beside_word hword o₁ after o').mp h

/-- A word for a switch that is not there yet can be put wherever an option may begin. -/
theorem parse_with (hword : word ∈ s.words) {before after : List String} (hmark : "--" ∉ before)
    (hbefore : Request.parse before = .inspect o') (h : Request.parse (before ++ after) = .inspect o)
    (hoff : s.isOn o = false) : Request.parse (before ++ word :: after) = .inspect (s.turn o) := by
  rw [← List.append_nil before] at hbefore
  obtain ⟨o₁, hready⟩ := exists_ready (p := .ready {}) trivial (by simp) (fun _ => hmark) hbefore
  rw [Request.parse, hready] at h ⊢
  exact (beside_word hword o₁ after _).mpr ⟨o, h, hoff, rfl⟩

end LogSwitch

end PostMortem.Inspector
