import Mathlib.Data.List.Forall2
import PostMortem.Reporter.Step

/-! # Runs of a reporter, step by step

A run shows one observation for each step, and that of a step is made in the state that the steps before it lead to. Two
runs stay alike if each step keeps them alike.
-/
set_option autoImplicit false

namespace PostMortem.Reporter

variable {α : Type}

theorem run_cons (build : Build) (r : Reporter) (s : Step α) (rest : List (Step α)) :
    r.run build (s :: rest) =
      ((r.observe build s).1 :: ((r.observe build s).2.run build rest).1, ((r.observe build s).2.run build rest).2) :=
  rfl

theorem length_run (build : Build) (r : Reporter) (steps : List (Step α)) :
    (r.run build steps).1.length = steps.length := by
  induction steps generalizing r with
  | nil => rfl
  | cons s rest ih => exact congrArg (· + 1) (ih (r.observe build s).2)

theorem getElem?_run (build : Build) (r : Reporter) (steps : List (Step α)) (i : Nat) :
    (r.run build steps).1[i]? = steps[i]?.map fun s => ((r.run build (steps.take i)).2.observe build s).1 := by
  induction steps generalizing r i with
  | nil => rfl
  | cons s rest ih =>
    cases i with
    | zero => rfl
    | succ i => exact ih (r.observe build s).2 i

theorem eq_observe_of_getElem?_run {build : Build} {r : Reporter} {steps : List (Step α)} {i : Nat} {s : Step α}
    {o : Observation α} (hs : steps[i]? = some s) (ho : (r.run build steps).1[i]? = some o) :
    o = ((r.run build (steps.take i)).2.observe build s).1 := by
  rw [getElem?_run, hs] at ho
  exact (Option.some.inj ho).symm

theorem state_run_append (build : Build) (r : Reporter) (steps more : List (Step α)) :
    (r.run build (steps ++ more)).2 = ((r.run build steps).2.run build more).2 := by
  induction steps generalizing r with
  | nil => rfl
  | cons s rest ih => exact ih (r.observe build s).2

theorem state_run_take_succ (build : Build) (r : Reporter) {steps : List (Step α)} {i : Nat} {s : Step α}
    (hs : steps[i]? = some s) :
    (r.run build (steps.take (i + 1))).2 = ((r.run build (steps.take i)).2.observe build s).2 := by
  rw [List.take_add_one, hs, state_run_append]
  rfl

/-! ## Two runs -/

theorem getElem?_corresponds {β : Type} {R : β → β → Prop} {xs ys : List β} (h : List.Forall₂ R xs ys) {i : Nat}
    {x y : β} (hx : xs[i]? = some x) (hy : ys[i]? = some y) : R x y := by
  obtain ⟨hxlt, rfl⟩ := List.getElem?_eq_some_iff.mp hx
  obtain ⟨hylt, rfl⟩ := List.getElem?_eq_some_iff.mp hy
  exact h.get hxlt hylt

theorem run_related (Alike : Reporter → Reporter → Prop) {Corresponds : Step α → Step α → Prop} {build build' : Build}
    (hstep : ∀ r r' s s', Alike r r' → Corresponds s s' → Alike (r.observe build s).2 (r'.observe build' s').2)
    {r r' : Reporter} (h : Alike r r') {steps steps' : List (Step α)} (hsteps : List.Forall₂ Corresponds steps steps') :
    Alike (r.run build steps).2 (r'.run build' steps').2 := by
  induction hsteps generalizing r r' with
  | nil => exact h
  | cons hfirst _ ih => exact ih (hstep _ _ _ _ h hfirst)

end PostMortem.Reporter
