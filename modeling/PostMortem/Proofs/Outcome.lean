/-! # Outcomes that are values

How a value can come out of a chain of operations that may fail: each of them gave a value.
-/
set_option autoImplicit false

namespace PostMortem.Outcome

variable {ε ε' α β : Type}

theorem bind_eq_ok_iff {x : Except ε α} {f : α → Except ε β} {b : β} :
    x >>= f = .ok b ↔ ∃ a, x = .ok a ∧ f a = .ok b := by
  cases x with
  | error e => simp [bind, Except.bind]
  | ok a => simp [bind, Except.bind]

theorem map_eq_ok_iff {x : Except ε α} {f : α → β} {b : β} : x.map f = .ok b ↔ ∃ a, x = .ok a ∧ f a = b := by
  cases x with
  | error e => simp [Except.map]
  | ok a => simp [Except.map]

theorem mapError_eq_ok_iff {x : Except ε α} {f : ε → ε'} {a : α} : x.mapError f = .ok a ↔ x = .ok a := by
  cases x with
  | error e =>
    constructor
    · intro h
      cases h
    · intro h
      cases h
  | ok other =>
    constructor
    · intro h
      cases h
      rfl
    · intro h
      cases h
      rfl

theorem error_ne_ok (e : ε) (a : α) : (.error e : Except ε α) ≠ .ok a := by
  intro h
  cases h

theorem pure_eq_ok (a : α) : (pure a : Except ε α) = .ok a := rfl

theorem eq_ok_of_toOption {x : Except ε α} {a : α} (h : x.toOption = some a) : x = .ok a := by
  cases x with
  | error e => cases h
  | ok a' => exact congrArg Except.ok (Option.some.inj h)

/-- What comes out is the one value with a property, if nothing else comes out and something does. -/
theorem eq_ok_iff_of_unique {x : Except ε α} {P : α → Prop} {a : α} (hsound : ∀ {b}, x = .ok b → P b)
    (hunique : ∀ {b c}, P b → P c → b = c) (hexists : P a → ∃ b, x = .ok b) : x = .ok a ↔ P a := by
  refine ⟨hsound, fun h => ?_⟩
  obtain ⟨b, hb⟩ := hexists h
  rw [hb, hunique h (hsound hb)]

end PostMortem.Outcome
