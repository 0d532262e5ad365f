import Mathlib.Data.List.Basic

/-!
# States that change a bounded number of times

A step function without guards, taken event after event, and a `view` of its states. When every
change of what is seen lowers a measure of it, the changes of a run, however long, are at most as
many as the measure allows (`changes_add_le`).
-/

set_option autoImplicit false

namespace ArmFaceID.Library

universe u v w

variable {σ : Type u} {ε : Type v} {α : Type w} {view : σ → α} {step : σ → ε → σ} {s : σ}
  {es : List ε} {μ : α → Nat}

/-- How many of the steps change what is seen of the state. -/
def changes [DecidableEq α] (view : σ → α) (step : σ → ε → σ) : σ → List ε → Nat
  | _, [] => 0
  | s, e :: es =>
      (if view (step s e) = view s then 0 else 1) + changes view step (step s e) es

/-- The steps that change what is seen, and the measure left, are within the measure at the start. -/
theorem changes_add_le [DecidableEq α]
    (h : ∀ s e, view (step s e) ≠ view s → μ (view (step s e)) < μ (view s)) :
    changes view step s es + μ (view (es.foldl step s)) ≤ μ (view s) := by
  induction es generalizing s with
  | nil =>
      rw [changes, Nat.zero_add]
      exact Nat.le_refl _
  | cons e es ih =>
      have hrest := ih (s := step s e)
      rw [changes, List.foldl_cons]
      by_cases hsame : view (step s e) = view s
      · rw [hsame] at hrest
        rw [if_pos hsame, Nat.zero_add]
        exact hrest
      · have hless := h s e hsame
        rw [if_neg hsame]
        omega

theorem foldl_measure_le (h : ∀ s e, μ (view (step s e)) ≤ μ (view s)) :
    μ (view (es.foldl step s)) ≤ μ (view s) := by
  induction es generalizing s with
  | nil => exact Nat.le_refl _
  | cons e es ih => exact Nat.le_trans ih (h s e)

/-- A state that every event leaves alone stays. -/
theorem foldl_fixed (h : ∀ e, step s e = s) : es.foldl step s = s := by
  induction es with
  | nil => rfl
  | cons e es ih =>
      rw [List.foldl_cons, h e]
      exact ih

theorem changes_eq_zero [DecidableEq α] (h : ∀ e ∈ es, step s e = s) :
    changes view step s es = 0 := by
  induction es with
  | nil => rfl
  | cons e es ih =>
      have hsame := h e List.mem_cons_self
      rw [changes, hsame, if_pos rfl, Nat.zero_add]
      exact ih fun e' he' => h e' (List.mem_cons_of_mem _ he')

end ArmFaceID.Library
