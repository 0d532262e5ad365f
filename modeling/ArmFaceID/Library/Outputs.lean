import ArmFaceID.Library.Machine

/-!
# What a run puts out

A step is given something to put out besides its next state: a notification, a frame taken, an
answer. `outputs` concatenates what the steps of a run put out, so that a property of the whole
history can be stated without a history in the state. It grows at the end as runs do
(`Run.outputs_snoc`), and an invariant may tie the state to the events and the outputs so far.
-/

set_option autoImplicit false

namespace ArmFaceID.Library

universe u v w

variable {σ : Type u} {ε : Type v} {ω : Type w}

/-- What the steps put out, up to the first event that is not enabled. -/
def outputs (step : σ → ε → Option σ) (emit : σ → ε → List ω) : σ → List ε → List ω
  | _, [] => []
  | s, e :: es =>
      match step s e with
      | none => []
      | some t => emit s e ++ outputs step emit t es

section Outputs

variable {step : σ → ε → Option σ} {emit : σ → ε → List ω} {G : σ → ε → Prop} {s₀ s t : σ}
  {es : List ε} {e : ε}

@[simp] theorem outputs_nil : outputs step emit s₀ [] = [] := rfl

/-- The outputs of a run and of its continuation. -/
theorem outputs_append (es' : List ε) (h : exec step s₀ es = some s) :
    outputs step emit s₀ (es ++ es') = outputs step emit s₀ es ++ outputs step emit s es' := by
  induction es generalizing s₀ with
  | nil =>
      cases h
      rfl
  | cons e es ih =>
      obtain ⟨t, ht, hrest⟩ := Option.bind_eq_some_iff.1 h
      simp only [List.cons_append, outputs, ht]
      rw [ih hrest, List.append_assoc]

theorem Run.outputs_snoc (h : Run step s₀ es s) (ht : step s e = some t) :
    outputs step emit s₀ (es ++ [e]) = outputs step emit s₀ es ++ emit s e := by
  rw [outputs_append [e] (run_iff_exec.1 h)]
  simp only [outputs, ht, List.append_nil]

/-- The invariant rule with the events and the outputs so far. -/
theorem Run.outputs_invariant {I : List ε → List ω → σ → Prop} (h₀ : I [] [] s₀)
    (hstep : ∀ es out s e t, I es out s → step s e = some t → I (es ++ [e]) (out ++ emit s e) t)
    (h : Run step s₀ es s) : I es (outputs step emit s₀ es) s := by
  induction h with
  | nil => exact h₀
  | snoc hrun hs ih =>
      rw [hrun.outputs_snoc hs]
      exact hstep _ _ _ _ _ ih hs

/-- The rule for guarded runs: the step may use the guard. -/
theorem GuardedRun.outputs_invariant {I : List ε → List ω → σ → Prop} (h₀ : I [] [] s₀)
    (hstep : ∀ es out s e t, I es out s → G s e → step s e = some t →
      I (es ++ [e]) (out ++ emit s e) t)
    (h : GuardedRun step G s₀ es s) : I es (outputs step emit s₀ es) s := by
  induction h with
  | nil => exact h₀
  | snoc hrun hg hs ih =>
      rw [hrun.run.outputs_snoc hs]
      exact hstep _ _ _ _ _ ih hg hs

end Outputs

end ArmFaceID.Library
