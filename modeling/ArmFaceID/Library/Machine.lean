import Mathlib.Data.List.Induction

/-!
# Runs of a partial step function

A system is given by a step function `σ → ε → Option σ`; `none` means that the event is not enabled
in that state. `Run step s₀ es s` says that the events `es`, oldest first, lead from `s₀` to `s`.
`GuardedRun` adds a condition `G` on the state before each step and the event taken there: a
property that some steps break is stated for the runs all of whose steps meet `G`.

Both relations grow at the end, so an induction over a run has the state before the last step at
hand. `exec` computes a run.
-/

set_option autoImplicit false

namespace ArmFaceID.Library

universe u v

variable {σ : Type u} {ε : Type v}

/-- The events `es`, oldest first, lead from `s₀` to the state at hand. -/
inductive Run (step : σ → ε → Option σ) (s₀ : σ) : List ε → σ → Prop
  | nil : Run step s₀ [] s₀
  | snoc {es : List ε} {s t : σ} {e : ε} :
      Run step s₀ es s → step s e = some t → Run step s₀ (es ++ [e]) t

/-- A run in which `G` holds of the state before each step and of the event taken there. -/
inductive GuardedRun (step : σ → ε → Option σ) (G : σ → ε → Prop) (s₀ : σ) : List ε → σ → Prop
  | nil : GuardedRun step G s₀ [] s₀
  | snoc {es : List ε} {s t : σ} {e : ε} :
      GuardedRun step G s₀ es s → G s e → step s e = some t → GuardedRun step G s₀ (es ++ [e]) t

/-- `P` holds in every state that a run over `es` goes through, the first and the last included. -/
def Always (step : σ → ε → Option σ) (P : σ → Prop) (s₀ : σ) (es : List ε) : Prop :=
  ∀ seen s, seen <+: es → Run step s₀ seen s → P s

/-- The state after the events, if every one of them is enabled. -/
def exec (step : σ → ε → Option σ) : σ → List ε → Option σ
  | s, [] => some s
  | s, e :: es => (step s e).bind fun t => exec step t es

/-- The step function that is not enabled outside the guard. -/
def guardedStep (step : σ → ε → Option σ) (G : σ → ε → Prop) [∀ s e, Decidable (G s e)] (s : σ)
    (e : ε) : Option σ :=
  if G s e then step s e else none

section Runs

variable {step : σ → ε → Option σ} {G : σ → ε → Prop} {s₀ s t : σ} {es : List ε}

theorem exec_append (es₁ es₂ : List ε) :
    exec step s (es₁ ++ es₂) = (exec step s es₁).bind fun t => exec step t es₂ := by
  -- the start state changes along the first list
  induction es₁ generalizing s with
  | nil => rfl
  | cons e es ih =>
      simp only [List.cons_append, exec]
      cases step s e with
      | none => rfl
      | some u => exact ih

theorem exec_snoc (es : List ε) (e : ε) :
    exec step s (es ++ [e]) = (exec step s es).bind fun t => step t e := by
  rw [exec_append]
  congr 1
  funext t
  simp [exec]

/-- The run relation is the graph of `exec`. -/
theorem run_iff_exec : Run step s₀ es s ↔ exec step s₀ es = some s := by
  constructor
  · intro h
    induction h with
    | nil => rfl
    | snoc _ hstep ih => rw [exec_snoc, ih, Option.bind_some, hstep]
  · induction es using List.reverseRecOn generalizing s with
    | nil =>
        intro h
        cases h
        exact .nil
    | append_singleton es e ih =>
        intro h
        rw [exec_snoc, Option.bind_eq_some_iff] at h
        obtain ⟨u, hu, hstep⟩ := h
        exact .snoc (ih hu) hstep

theorem Run.append {es' : List ε} (h : Run step s₀ es s) (h' : Run step s es' t) :
    Run step s₀ (es ++ es') t := by
  rw [run_iff_exec, exec_append, run_iff_exec.1 h]
  exact run_iff_exec.1 h'

/-- A property of the start state that every step keeps holds in every state reached. -/
theorem Run.invariant {I : σ → Prop} (h₀ : I s₀)
    (hstep : ∀ s e t, I s → step s e = some t → I t) (h : Run step s₀ es s) : I s := by
  induction h with
  | nil => exact h₀
  | snoc _ hs ih => exact hstep _ _ _ ih hs

/-- The invariant rule for guarded runs: the step may use the guard. -/
theorem GuardedRun.invariant {I : σ → Prop} (h₀ : I s₀)
    (hstep : ∀ s e t, I s → G s e → step s e = some t → I t)
    (h : GuardedRun step G s₀ es s) : I s := by
  induction h with
  | nil => exact h₀
  | snoc _ hg hs ih => exact hstep _ _ _ ih hg hs

theorem GuardedRun.run (h : GuardedRun step G s₀ es s) : Run step s₀ es s := by
  induction h with
  | nil => exact .nil
  | snoc _ _ hs ih => exact .snoc ih hs

theorem guardedStep_eq_some [∀ s e, Decidable (G s e)] {e : ε} :
    guardedStep step G s e = some t ↔ G s e ∧ step s e = some t := by
  by_cases hg : G s e
  · rw [guardedStep, if_pos hg]
    exact (and_iff_right hg).symm
  · rw [guardedStep, if_neg hg]
    exact iff_of_false (fun h => nomatch h) (fun h => hg h.1)

/-- With a guard that can be decided, guarded runs can be computed. -/
theorem guardedRun_iff_exec [∀ s e, Decidable (G s e)] :
    GuardedRun step G s₀ es s ↔ exec (guardedStep step G) s₀ es = some s := by
  rw [← run_iff_exec]
  constructor
  · intro h
    induction h with
    | nil => exact .nil
    | snoc _ hg hs ih => exact .snoc ih (guardedStep_eq_some.2 ⟨hg, hs⟩)
  · intro h
    induction h with
    | nil => exact .nil
    | snoc _ hs ih =>
        obtain ⟨hg, hs⟩ := guardedStep_eq_some.1 hs
        exact .snoc ih hg hs

/-- The events determine the state reached. -/
theorem Run.unique (h : Run step s₀ es s) (h' : Run step s₀ es t) : s = t :=
  Option.some.inj ((run_iff_exec.1 h).symm.trans (run_iff_exec.1 h'))

theorem GuardedRun.of_prefix {seen : List ε} (h : GuardedRun step G s₀ es s) (hseen : seen <+: es) :
    ∃ u, GuardedRun step G s₀ seen u := by
  induction h with
  | nil =>
      rw [List.prefix_nil.1 hseen]
      exact ⟨s₀, .nil⟩
  | snoc hrun hg hs ih =>
      rcases List.prefix_concat_iff.1 hseen with rfl | hshort
      · exact ⟨_, .snoc hrun hg hs⟩
      · exact ih hshort

/-- In a machine that writes at most one entry of a log in a step, each entry as `W` says, every entry
was written by one step of the run, from the state that had written the entries before it. -/
theorem Run.entry_written {α : Type*} {log : σ → List α} {W : σ → ε → α → Prop} (h₀ : log s₀ = [])
    (hstep : ∀ s e t, step s e = some t → log t = log s ∨ ∃ a, W s e a ∧ log t = log s ++ [a])
    (h : Run step s₀ es s) {k : Nat} {a : α} (hk : (log s)[k]? = some a) :
    ∃ before e u, before ++ [e] <+: es ∧ Run step s₀ before u ∧ log u = (log s).take k ∧
      W u e a := by
  induction h with
  | nil =>
      rw [h₀] at hk
      cases hk
  | @snoc es s t e hrun hs ih =>
      -- an entry that was there before the last step
      have hearlier (hsame : (log t).take k = (log s).take k) (hk : (log s)[k]? = some a) :
          ∃ before e' u, before ++ [e'] <+: es ++ [e] ∧ Run step s₀ before u ∧
            log u = (log t).take k ∧ W u e' a := by
        obtain ⟨before, e', u, hbefore, hu, htake, hW⟩ := ih hk
        exact ⟨before, e', u, hbefore.trans (List.prefix_append es [e]), hu, htake.trans hsame.symm,
          hW⟩
      rcases hstep s e t hs with hlog | ⟨b, hW, hlog⟩
      · rw [hlog] at hk
        exact hearlier (congrArg (List.take k) hlog) hk
      · rw [hlog] at hk
        rcases Nat.lt_or_ge k (log s).length with hlt | hge
        · rw [List.getElem?_append_left hlt] at hk
          apply hearlier _ hk
          rw [hlog, List.take_append_of_le_length (Nat.le_of_lt hlt)]
        · -- the entry written by the last step
          rw [List.getElem?_append_right hge] at hk
          obtain ⟨hidx, hval⟩ := List.getElem?_eq_some_iff.1 hk
          rw [List.length_singleton] at hidx
          have hlen : k = (log s).length := by omega
          subst hlen
          rw [List.getElem_singleton] at hval
          subst hval
          exact ⟨es, e, s, List.prefix_refl _, hrun, by rw [hlog, List.take_left], hW⟩

/-- A run of one machine is a run of another that does the same on renamed events. -/
theorem Run.rename {ε' : Type*} {step' : σ → ε' → Option σ} {f : ε → ε'}
    (hstep : ∀ s e t, step s e = some t → step' s (f e) = some t) (h : Run step s₀ es s) :
    Run step' s₀ (es.map f) s := by
  induction h with
  | nil => exact .nil
  | snoc _ hs ih =>
      rw [List.map_append]
      exact .snoc ih (hstep _ _ _ hs)

/-- When an invariant `I` gives `P`, steps under the guard keep `I`, and a step outside the guard
breaks `P`, then `P` holds throughout a run exactly if the run keeps to the guard. -/
theorem Run.always_iff_guarded {I P : σ → Prop} (h₀ : I s₀) (hP : ∀ s, I s → P s)
    (hkeep : ∀ s e t, I s → G s e → step s e = some t → I t)
    (hbreak : ∀ s e t, I s → ¬ G s e → step s e = some t → ¬ P t) (h : Run step s₀ es s) :
    Always step P s₀ es ↔ GuardedRun step G s₀ es s := by
  constructor
  · intro hall
    induction h with
    | nil => exact .nil
    | @snoc es s t e hrun hs ih =>
        -- the shorter run keeps to the guard, so `I` holds before the last step
        have hguarded : GuardedRun step G s₀ es s := by
          apply ih
          intro seen u hseen hu
          exact hall seen u (hseen.trans (List.prefix_append es [e])) hu
        have hI : I s := hguarded.invariant h₀ hkeep
        have hPt : P t := hall (es ++ [e]) t (List.prefix_refl _) (.snoc hrun hs)
        have hG : G s e := by
          by_contra hG
          exact hbreak s e t hI hG hs hPt
        exact .snoc hguarded hG hs
  · intro hguarded seen u hseen hu
    obtain ⟨u', hu'⟩ := hguarded.of_prefix hseen
    have hsame : u' = u := hu'.run.unique hu
    subst hsame
    exact hP _ (hu'.invariant h₀ hkeep)

end Runs

end ArmFaceID.Library
