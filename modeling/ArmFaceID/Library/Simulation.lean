import ArmFaceID.Library.Outputs

/-!
# Forward simulation

One machine simulates another when every step of the second, taken in a state related to one of the
first, is met by steps of the first that lead to related states again. Which steps these are may
depend on the state, and they may be none. Runs are simulated then, by the concatenation of what
meets their steps (`Simulation.run`).
-/

set_option autoImplicit false

namespace ArmFaceID.Library

universe u v w x

variable {σ : Type u} {ε : Type v} {τ : Type w} {δ : Type x}

/-- The events `met s e` of the machine `step'` meet the event `e` of `step`. -/
def Simulation (step : σ → ε → Option σ) (step' : τ → δ → Option τ) (met : σ → ε → List δ)
    (R : σ → τ → Prop) : Prop :=
  ∀ s e t a, R s a → step s e = some t → ∃ b, Run step' a (met s e) b ∧ R t b

section Simulations

variable {step : σ → ε → Option σ} {step' : τ → δ → Option τ} {met : σ → ε → List δ}
  {R : σ → τ → Prop} {s₀ s : σ} {a₀ a b : τ} {es : List ε} {d : δ}

theorem Run.single (h : step' a d = some b) : Run step' a [d] b := .snoc .nil h

/-- Runs are simulated. -/
theorem Simulation.run (h : Simulation step step' met R) (h₀ : R s₀ a₀)
    (hrun : Run step s₀ es s) : ∃ a, Run step' a₀ (outputs step met s₀ es) a ∧ R s a := by
  induction hrun with
  | nil => exact ⟨a₀, .nil, h₀⟩
  | @snoc es s t e hrun hs ih =>
      obtain ⟨a, ha, hR⟩ := ih
      obtain ⟨b, hb, hR'⟩ := h s e t a hR hs
      rw [hrun.outputs_snoc hs]
      exact ⟨b, ha.append hb, hR'⟩

end Simulations

end ArmFaceID.Library
