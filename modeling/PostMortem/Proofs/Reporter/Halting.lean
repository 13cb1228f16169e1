import PostMortem.Reporter.Halt

/-! # A thread that halts stays where it is

Whatever happens to a thread that halts, it does not come out of its loop; and left alone it soon blocks again.
-/
set_option autoImplicit false

namespace PostMortem.Waiting

/-- A thread is at one of the two instructions of the loop, and blocks nowhere but in `park`. -/
def InLoop (w : Waiting) : Prop := w.place = 0 ∨ w.place = 1 ∧ w.blocked = false

theorem inLoop_after {w : Waiting} (h : w.InLoop) (turn : Turn) : (w.after haltCode turn).InLoop := by
  obtain ⟨place, blocked, permit⟩ := w
  rcases h with hpark | ⟨hjump, hfree⟩
  · cases hpark
    cases turn <;> cases blocked <;> cases permit <;> simp [after, haltCode, execute, unblock, InLoop]
  · cases hjump
    cases hfree
    cases turn <;> simp [after, haltCode, execute, InLoop]

theorem inLoop_afterAll {w : Waiting} (h : w.InLoop) (turns : List Turn) : (w.afterAll haltCode turns).InLoop := by
  induction turns generalizing w with
  | nil => exact h
  | cons turn rest ih => exact ih (inLoop_after h turn)

theorem hasLeft_of_inLoop {w : Waiting} (h : w.InLoop) : w.hasLeft haltCode = false := by
  rcases h with hpark | ⟨hjump, -⟩
  · simp [hasLeft, haltCode, hpark]
  · simp [hasLeft, haltCode, hjump]

/-- At the worst a thread has to jump, to use up its permit, to jump again and to park. -/
theorem blocked_of_inLoop {w : Waiting} (h : w.InLoop) :
    (w.afterAll haltCode [.runs, .runs, .runs, .runs]).blocked = true := by
  obtain ⟨place, blocked, permit⟩ := w
  rcases h with hpark | ⟨hjump, hfree⟩
  · cases hpark
    cases blocked <;> cases permit <;> rfl
  · cases hjump
    cases hfree
    cases permit <;> rfl

theorem inLoop_start (turns : List Turn) : (afterAll haltCode {} turns).InLoop := inLoop_afterAll (.inl rfl) turns

theorem hasLeft_afterAll (turns : List Turn) : (afterAll haltCode {} turns).hasLeft haltCode = false :=
  hasLeft_of_inLoop (inLoop_start turns)

theorem blocked_afterAll (turns : List Turn) :
    (afterAll haltCode {} (turns ++ [.runs, .runs, .runs, .runs])).blocked = true := by
  unfold afterAll
  rw [List.foldl_append]
  exact blocked_of_inLoop (inLoop_start turns)

/-- Without the loop one signal is enough. -/
example : (afterAll [.park] {} [.runs, .unparked]).hasLeft [.park] = true := by decide

end PostMortem.Waiting
