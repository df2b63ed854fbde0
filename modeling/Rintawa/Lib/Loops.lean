/-
# Bounded loops

A loop repeats a step until it yields a result, and gives up after a number of steps. A result
does not depend on that number. A loop whose steps decrease a measure yields one.
-/

import Mathlib.Data.Nat.Notation

namespace Rintawa.Lib

universe u v

variable {State : Type u} {Result : Type v} {step : State → State ⊕ Result}

/-- Repeat a step until it yields a result, at most a number of times. -/
def loop (step : State → State ⊕ Result) : Nat → State → Option Result
  | 0, _ => none
  | fuel + 1, state =>
      match step state with
      | .inl next => loop step fuel next
      | .inr result => some result

variable {fuel : Nat}

theorem loop_of_inl {state next : State} (h : step state = .inl next) :
    loop step (fuel + 1) state = loop step fuel next := by
  rw [loop, h]

theorem loop_of_inr {state : State} {result : Result} (h : step state = .inr result) :
    loop step (fuel + 1) state = some result := by
  rw [loop, h]

/-- A loop may have more steps than it needs. -/
theorem loop_mono {fuel' : Nat} {state : State} {result : Result}
    (h : loop step fuel state = some result) (hfuel : fuel ≤ fuel') :
    loop step fuel' state = some result := by
  induction fuel generalizing state fuel' with
  | zero => cases h
  | succ fuel ih =>
      obtain ⟨less, rfl⟩ : ∃ less, fuel' = less + 1 :=
        Nat.exists_eq_succ_of_ne_zero (Nat.ne_of_gt (Nat.lt_of_lt_of_le fuel.succ_pos hfuel))
      cases hstep : step state with
      | inl next =>
          rw [loop_of_inl hstep] at h ⊢
          exact ih h (Nat.le_of_succ_le_succ hfuel)
      | inr found =>
          rw [loop_of_inr hstep] at h ⊢
          exact h

/-- What every step keeps holds when the loop ends. -/
theorem loop_rule {P : State → Prop} {Q : Result → Prop}
    (hnext : ∀ state next, P state → step state = .inl next → P next)
    (hdone : ∀ state result, P state → step state = .inr result → Q result) {state : State}
    {result : Result} (hstate : P state) (h : loop step fuel state = some result) : Q result := by
  induction fuel generalizing state with
  | zero => cases h
  | succ fuel ih =>
      cases hstep : step state with
      | inl next =>
          rw [loop_of_inl hstep] at h
          exact ih (hnext state next hstate hstep) h
      | inr found =>
          rw [loop_of_inr hstep] at h
          cases h
          exact hdone state _ hstate hstep

/-- A loop ends within as many steps as its measure allows. -/
theorem loop_terminates {P : State → Prop} (measure : State → Nat)
    (hnext : ∀ state next, P state → step state = .inl next →
      P next ∧ measure next < measure state) {state : State} (hstate : P state)
    (hfuel : measure state < fuel) : ∃ result, loop step fuel state = some result := by
  induction fuel generalizing state with
  | zero => exact absurd hfuel (Nat.not_lt_zero _)
  | succ fuel ih =>
      cases hstep : step state with
      | inl next =>
          obtain ⟨hkept, hless⟩ := hnext state next hstate hstep
          rw [loop_of_inl hstep]
          exact ih hkept (Nat.lt_of_lt_of_le hless (Nat.le_of_lt_succ hfuel))
      | inr result => exact ⟨result, loop_of_inr hstep⟩

/-- A loop yields the same when only those steps differ that yield nothing. -/
theorem loop_congr {step step' : State → State ⊕ Option Result}
    (hstep : ∀ state, step state ≠ .inr none → step' state = step state) {state : State}
    {result : Result} (h : loop step fuel state = some (some result)) :
    loop step' fuel state = some (some result) := by
  induction fuel generalizing state with
  | zero => cases h
  | succ fuel ih =>
      cases hfirst : step state with
      | inl next =>
          rw [loop_of_inl hfirst] at h
          rw [loop_of_inl ((hstep state (hfirst ▸ Sum.inl_ne_inr)).trans hfirst)]
          exact ih h
      | inr found =>
          rw [loop_of_inr hfirst] at h
          cases h
          have hsome : step state ≠ .inr none := by
            rw [hfirst]
            exact fun hnone => by cases hnone
          exact loop_of_inr ((hstep state hsome).trans hfirst)

end Rintawa.Lib
