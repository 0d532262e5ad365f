import ArmFaceID.Library.Outputs

/-!
# Work that comes to an end

Some steps of a system are its own work: they take from its queues what others have put there. When
each of them lowers a measure, and one is enabled while the measure is positive, the work comes to an
end, after no more steps than the measure allows, in whichever order they are taken (`Settles`).

What the work puts out need not depend on the order either. When every step puts out the front of
what the state owes, a run to a state that owes nothing has put out all that was owed
(`GuardedRun.pays`).
-/

set_option autoImplicit false

namespace ArmFaceID.Library

universe u v w x

variable {σ : Type u} {ε : Type v} {ω : Type w} {β : Type x}

/-- In the states `I`, the steps `G` lower the measure, and one is enabled while it is positive. -/
structure Settles (step : σ → ε → Option σ) (G : σ → ε → Prop) (I : σ → Prop) (μ : σ → Nat) :
    Prop where
  keeps : ∀ s e t, I s → G s e → step s e = some t → I t
  lowers : ∀ s e t, I s → G s e → step s e = some t → μ t < μ s
  enabled : ∀ s, I s → 0 < μ s → ∃ e t, G s e ∧ step s e = some t

section Settling

variable {step : σ → ε → Option σ} {G : σ → ε → Prop} {I : σ → Prop} {μ : σ → Nat} {s₀ s : σ}
  {es : List ε}

/-- The steps taken and the measure left are within the measure at the start. -/
theorem Settles.length_add_le (h : Settles step G I μ) (h₀ : I s₀)
    (hrun : GuardedRun step G s₀ es s) : es.length + μ s ≤ μ s₀ := by
  induction hrun with
  | nil => exact Nat.le_of_eq (Nat.zero_add _)
  | snoc hrun hg hs ih =>
      have hless := h.lowers _ _ _ (hrun.invariant h₀ h.keeps) hg hs
      rw [List.length_append, List.length_singleton]
      omega

/-- The work can be done. -/
theorem Settles.reaches (h : Settles step G I μ) (h₀ : I s₀) :
    ∃ es s, GuardedRun step G s₀ es s ∧ μ s = 0 := by
  -- as long as the measure is positive a run can be made longer, and no run is longer than it
  have hlonger : ∀ n, ∃ es s, GuardedRun step G s₀ es s ∧ (μ s = 0 ∨ n ≤ es.length) := by
    intro n
    induction n with
    | zero => exact ⟨[], s₀, .nil, Or.inr (Nat.zero_le _)⟩
    | succ n ih =>
        obtain ⟨es, s, hrun, hdone | hlength⟩ := ih
        · exact ⟨es, s, hrun, Or.inl hdone⟩
        · rcases Nat.eq_zero_or_pos (μ s) with hdone | hpos
          · exact ⟨es, s, hrun, Or.inl hdone⟩
          · obtain ⟨e, t, hg, hs⟩ := h.enabled s (hrun.invariant h₀ h.keeps) hpos
            refine ⟨es ++ [e], t, hrun.snoc hg hs, Or.inr ?_⟩
            rw [List.length_append]
            exact Nat.succ_le_succ hlength
  obtain ⟨es, s, hrun, hdone | hlength⟩ := hlonger (μ s₀ + 1)
  · exact ⟨es, s, hrun, hdone⟩
  · have hbound := h.length_add_le h₀ hrun
    omega

/-- A run that cannot be made longer has done the work. -/
theorem Settles.done_of_stuck (h : Settles step G I μ) (h₀ : I s₀)
    (hrun : GuardedRun step G s₀ es s) (hstuck : ∀ e, G s e → step s e = none) : μ s = 0 := by
  rcases Nat.eq_zero_or_pos (μ s) with hdone | hpos
  · exact hdone
  · obtain ⟨e, t, hg, hs⟩ := h.enabled s (hrun.invariant h₀ h.keeps) hpos
    rw [hstuck e hg] at hs
    cases hs

/-- What is put out, followed by what is still owed, is what was owed at the start. -/
theorem GuardedRun.pays (emit : σ → ε → List ω) (pay : ω → Option β) (owed : σ → List β)
    (hpay : ∀ s e t, G s e → step s e = some t → owed s = (emit s e).filterMap pay ++ owed t)
    (h : GuardedRun step G s₀ es s) :
    (outputs step emit s₀ es).filterMap pay ++ owed s = owed s₀ := by
  apply h.outputs_invariant (I := fun _ out s => out.filterMap pay ++ owed s = owed s₀)
  · rfl
  · intro es out s e t hinv hg hs
    rw [List.filterMap_append, List.append_assoc, ← hpay s e t hg hs]
    exact hinv

end Settling

end ArmFaceID.Library
