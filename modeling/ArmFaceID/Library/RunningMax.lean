import Mathlib.Order.Lattice

/-!
# The running maximum of a scan

A scan that keeps a pair of a score and an item, and replaces it whenever it meets a strictly
greater score. The start pair carries the score to beat. What the scan returns is either the start
pair or a pair it met, and its score is an upper bound of everything met.
-/

set_option autoImplicit false

namespace ArmFaceID.Library

universe u v

variable {α : Type u} {β : Type v} [LinearOrder β]

/-- The loop body: a strictly greater score replaces the pair kept so far. -/
def keepGreater (kept met : β × α) : β × α :=
  if kept.1 < met.1 then met else kept

/-- The pair kept after the whole list, starting from `start`. -/
def runningMax (start : β × α) (l : List (β × α)) : β × α :=
  l.foldl keepGreater start

@[simp] theorem runningMax_nil (start : β × α) : runningMax start [] = start := rfl

@[simp] theorem runningMax_cons (start x : β × α) (l : List (β × α)) :
    runningMax start (x :: l) = runningMax (keepGreater start x) l := rfl

theorem keepGreater_of_lt {kept met : β × α} (h : kept.1 < met.1) : keepGreater kept met = met :=
  if_pos h

theorem keepGreater_of_not_lt {kept met : β × α} (h : ¬ kept.1 < met.1) :
    keepGreater kept met = kept := if_neg h

theorem le_keepGreater_left (kept met : β × α) : kept.1 ≤ (keepGreater kept met).1 := by
  by_cases h : kept.1 < met.1
  · rw [keepGreater_of_lt h]
    exact le_of_lt h
  · rw [keepGreater_of_not_lt h]

theorem le_keepGreater_right (kept met : β × α) : met.1 ≤ (keepGreater kept met).1 := by
  by_cases h : kept.1 < met.1
  · rw [keepGreater_of_lt h]
  · rw [keepGreater_of_not_lt h]
    exact le_of_not_gt h

theorem keepGreater_eq_or (kept met : β × α) :
    keepGreater kept met = kept ∨ keepGreater kept met = met := by
  by_cases h : kept.1 < met.1
  · exact Or.inr (keepGreater_of_lt h)
  · exact Or.inl (keepGreater_of_not_lt h)

theorem start_le_runningMax (start : β × α) (l : List (β × α)) :
    start.1 ≤ (runningMax start l).1 := by
  induction l generalizing start with
  | nil => exact le_refl _
  | cons x l ih => exact le_trans (le_keepGreater_left start x) (ih _)

theorem le_runningMax_of_mem (start : β × α) {l : List (β × α)} {x : β × α} (hx : x ∈ l) :
    x.1 ≤ (runningMax start l).1 := by
  induction l generalizing start with
  | nil => cases hx
  | cons y l ih =>
      rcases List.mem_cons.1 hx with rfl | hx
      · exact le_trans (le_keepGreater_right start x) (start_le_runningMax _ l)
      · exact ih _ hx

/-- The pair kept at the end is the start pair or one that was met. -/
theorem runningMax_eq_start_or_mem (start : β × α) (l : List (β × α)) :
    runningMax start l = start ∨ runningMax start l ∈ l := by
  induction l generalizing start with
  | nil => exact Or.inl rfl
  | cons x l ih =>
      rcases ih (keepGreater start x) with h | h
      · rcases keepGreater_eq_or start x with hk | hk
        · exact Or.inl (by rw [runningMax_cons, h, hk])
        · exact Or.inr (by rw [runningMax_cons, h, hk]; exact List.mem_cons_self)
      · exact Or.inr (List.mem_cons_of_mem x h)

/-- If the score kept beats the start, the pair kept was met. -/
theorem runningMax_mem {start : β × α} {l : List (β × α)}
    (h : start.1 < (runningMax start l).1) : runningMax start l ∈ l := by
  rcases runningMax_eq_start_or_mem start l with he | hm
  · rw [he] at h
    exact absurd h (lt_irrefl _)
  · exact hm

/-- Pairs that cannot beat the start may be left out. -/
theorem runningMax_filter {start : β × α} {l : List (β × α)} {keep : β × α → Bool}
    (h : ∀ x ∈ l, keep x = false → x.1 ≤ start.1) :
    runningMax start (l.filter keep) = runningMax start l := by
  -- the score to beat only grows
  induction l generalizing start with
  | nil => rfl
  | cons x l ih =>
      have hrest : ∀ y ∈ l, keep y = false → y.1 ≤ (keepGreater start x).1 := fun y hy hk =>
        le_trans (h y (List.mem_cons_of_mem x hy) hk) (le_keepGreater_left start x)
      cases hkeep : keep x with
      | true =>
          rw [List.filter_cons_of_pos hkeep, runningMax_cons, runningMax_cons, ih hrest]
      | false =>
          have hle := h x List.mem_cons_self hkeep
          have hsame : keepGreater start x = start := keepGreater_of_not_lt (not_lt_of_ge hle)
          rw [hsame] at hrest
          rw [List.filter_cons_of_neg (by rw [hkeep]; exact Bool.false_ne_true), runningMax_cons,
            hsame, ih hrest]

end ArmFaceID.Library
