import AegisOt.Misc.Checks

/-!
# Computations that agree

Two computations agree when both raise the same exception or both return, with related results.
The rule of sequence makes agreement follow a program text that two runs share. Nothing here names
a program.
-/

namespace AegisOt

/-- Both return related results, or both raise the same exception. -/
def Agree {ε α β : Type} (R : α → β → Prop) : Except ε α → Except ε β → Prop
  | .ok a, .ok b => R a b
  | .error e, .error e' => e = e'
  | _, _ => False

section

variable {ε α β γ δ : Type} {R : α → β → Prop} {S : γ → δ → Prop}

@[simp] theorem agree_ok {a : α} {b : β} :
    Agree R (.ok a : Except ε α) (.ok b) ↔ R a b := Iff.rfl

@[simp] theorem agree_pure {a : α} {b : β} :
    Agree R (pure a : Except ε α) (pure b) ↔ R a b := Iff.rfl

/-- The rule of sequence. -/
theorem Agree.bind {x : Except ε α} {y : Except ε β} {f : α → Except ε γ} {g : β → Except ε δ}
    (h : Agree R x y) (hf : ∀ a b, x = .ok a → y = .ok b → R a b → Agree S (f a) (g b)) :
    Agree S (x >>= f) (y >>= g) := by
  cases x with
  | error e =>
    cases y with
    | error e' => exact h
    | ok b => exact h.elim
  | ok a =>
    cases y with
    | error e' => exact h.elim
    | ok b => exact hf a b rfl rfl h

/-- The rule of sequence for a first part that both share. -/
theorem agree_bind_same (x : Except ε α) {f : α → Except ε γ} {g : α → Except ε δ}
    (hf : ∀ a, x = .ok a → Agree S (f a) (g a)) : Agree S (x >>= f) (x >>= g) := by
  cases x with
  | error e => rfl
  | ok a => exact hf a rfl

/-- The same guard before two rests. -/
theorem agree_refuseIf_bind {c c' : Prop} [Decidable c] [Decidable c'] {e : ε}
    {f : Unit → Except ε γ} {g : Unit → Except ε δ} (hc : c ↔ c')
    (hf : ¬ c → Agree S (f ()) (g ())) : Agree S (refuseIf c e >>= f) (refuseIf c' e >>= g) := by
  by_cases h : c
  · rw [refuseIf_pos h, refuseIf_pos (hc.mp h)]
    rfl
  · rw [refuseIf_neg h, refuseIf_neg (mt hc.mpr h)]
    exact hf h

theorem agree_refuseIf {c c' : Prop} [Decidable c] [Decidable c'] {e : ε} {T : Unit → Unit → Prop}
    (hc : c ↔ c') (hT : T () ()) : Agree T (refuseIf c e) (refuseIf c' e) := by
  by_cases h : c
  · rw [refuseIf_pos h, refuseIf_pos (hc.mp h)]
    rfl
  · rw [refuseIf_neg h, refuseIf_neg (mt hc.mpr h)]
    exact hT

theorem Agree.mono {R' : α → β → Prop} {x : Except ε α} {y : Except ε β} (h : Agree R x y)
    (himp : ∀ a b, R a b → R' a b) : Agree R' x y := by
  cases x with
  | error e =>
    cases y with
    | error e' => exact h
    | ok b => exact h.elim
  | ok a =>
    cases y with
    | error e' => exact h.elim
    | ok b => exact himp a b h

theorem Agree.mapError {ε' : Type} {x : Except ε α} {y : Except ε β} (h : Agree R x y)
    (f : ε → ε') : Agree R (x.mapError f) (y.mapError f) := by
  cases x with
  | error e =>
    cases y with
    | error e' => exact congrArg f h
    | ok b => exact h.elim
  | ok a =>
    cases y with
    | error e' => exact h.elim
    | ok b => exact h

/-- What the first computation returns, the second returns too. -/
theorem Agree.exists_ok {x : Except ε α} {y : Except ε β} (h : Agree R x y) {a : α}
    (hx : x = .ok a) : ∃ b, y = .ok b ∧ R a b := by
  subst hx
  cases y with
  | error e => exact h.elim
  | ok b => exact ⟨b, rfl, h⟩

end

end AegisOt
