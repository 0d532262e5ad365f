import ArmFaceID.Library.RunningMax
import Mathlib.Data.List.MinMax

/-!
# The first best element of a list

`List.argmax` gives the first element of greatest score. `firstBest` asks in addition that its score
reaches a threshold. A scan that keeps the greater of two scored elements computes it
(`runningMax_map_eq`), a permutation does not change it when the best element is the only one
(`firstBest_perm`), and an element added at the end replaces it exactly when its score is strictly
greater than all others (`firstBest_concat`).
-/

set_option autoImplicit false

namespace ArmFaceID.Library

universe u v

variable {α : Type u} {β : Type v} [LinearOrder β] {score : α → β} {threshold : β} {l l' : List α}
  {a b : α}

/-- `a` has the greatest score of the list, and those before it have a smaller one. -/
def IsFirstBest (score : α → β) (l : List α) (a : α) : Prop :=
  ∃ before after, l = before ++ a :: after ∧ (∀ b ∈ before, score b < score a) ∧
    ∀ b ∈ after, score b ≤ score a

/-- The first element of greatest score, if the score reaches the threshold. -/
def firstBest (score : α → β) (threshold : β) (l : List α) : Option α :=
  (l.argmax score).filter fun a => decide (threshold ≤ score a)

theorem IsFirstBest.le (h : IsFirstBest score l a) (hb : b ∈ l) : score b ≤ score a := by
  obtain ⟨before, after, rfl, hbefore, hafter⟩ := h
  rcases List.mem_append.1 hb with hb | hb
  · exact le_of_lt (hbefore b hb)
  · rcases List.mem_cons.1 hb with rfl | hb
    · exact le_refl _
    · exact hafter b hb

/-- `List.argmax` finds the first best element. -/
theorem isFirstBest_of_argmax (h : l.argmax score = some a) : IsFirstBest score l a := by
  -- from the end, as `argmax` takes a later element only if it is strictly greater
  induction l using List.reverseRecOn generalizing a with
  | nil => cases h
  | append_singleton l x ih =>
      rw [List.argmax_concat] at h
      cases hl : l.argmax score with
      | none =>
          rw [List.argmax_eq_none.1 hl] at h ⊢
          cases h
          exact ⟨[], [], rfl, fun b hb => absurd hb List.not_mem_nil,
            fun b hb => absurd hb List.not_mem_nil⟩
      | some c =>
          rw [hl] at h
          have hc : IsFirstBest score l c := ih hl
          by_cases hlt : score c < score x
          · -- the last element beats all before it
            have hax : x = a := by simpa [hlt] using h
            subst hax
            exact ⟨l, [], rfl, fun b hb => lt_of_le_of_lt (hc.le hb) hlt,
              fun b hb => absurd hb List.not_mem_nil⟩
          · have hac : c = a := by simpa [hlt] using h
            subst hac
            obtain ⟨before, after, rfl, hbefore, hafter⟩ := hc
            refine ⟨before, after ++ [x], by simp, hbefore, ?_⟩
            intro b hb
            rcases List.mem_append.1 hb with hb | hb
            · exact hafter b hb
            · rw [List.mem_singleton.1 hb]
              exact le_of_not_gt hlt

theorem firstBest_eq_some (h : firstBest score threshold l = some a) :
    IsFirstBest score l a ∧ threshold ≤ score a := by
  obtain ⟨hmax, hle⟩ := Option.filter_eq_some_iff.1 h
  exact ⟨isFirstBest_of_argmax hmax, of_decide_eq_true hle⟩

/-- There is no best element at the threshold exactly when no element is. -/
theorem firstBest_eq_none_iff :
    firstBest score threshold l = none ↔ ∀ a ∈ l, score a < threshold := by
  rw [firstBest, Option.filter_eq_none_iff]
  constructor
  · intro h a ha
    cases hmax : l.argmax score with
    | none =>
        rw [List.argmax_eq_none.1 hmax] at ha
        cases ha
    | some m =>
        have hm : ¬ threshold ≤ score m := by simpa using h m hmax
        exact lt_of_le_of_lt (List.le_of_mem_argmax ha hmax) (lt_of_not_ge hm)
  · intro h m hm
    have hlt : score m < threshold := h m (List.argmax_mem hm)
    simpa using hlt

/-- If some element reaches the threshold, there is a best one. -/
theorem exists_firstBest (ha : a ∈ l) (hle : threshold ≤ score a) :
    ∃ m, firstBest score threshold l = some m := by
  cases h : firstBest score threshold l with
  | none => exact absurd hle (not_le_of_gt (firstBest_eq_none_iff.1 h a ha))
  | some m => exact ⟨m, rfl⟩

/-- The order of the list matters only among several elements of greatest score. -/
theorem firstBest_perm (hperm : l.Perm l')
    (honly : ∀ a ∈ l, ∀ b ∈ l, (∀ c ∈ l, score c ≤ score a) → (∀ c ∈ l, score c ≤ score b) → a = b) :
    firstBest score threshold l' = firstBest score threshold l := by
  -- the two lists have the same elements, so their best ones are best in both
  have hmax : l'.argmax score = l.argmax score := by
    cases hl : l.argmax score with
    | none =>
        rw [List.argmax_eq_none.1 hl] at hperm
        rw [List.nil_perm.1 hperm]
        rfl
    | some m =>
        cases hl' : l'.argmax score with
        | none =>
            rw [List.argmax_eq_none.1 hl', List.perm_nil] at hperm
            rw [hperm] at hl
            cases hl
        | some m' =>
            have hm' : m' ∈ l := hperm.mem_iff.2 (List.argmax_mem hl')
            have hbest : ∀ c ∈ l, score c ≤ score m' := fun c hc =>
              List.le_of_mem_argmax (hperm.mem_iff.1 hc) hl'
            rw [honly m' hm' m (List.argmax_mem hl) hbest fun c hc => List.le_of_mem_argmax hc hl]
  rw [firstBest, firstBest, hmax]

/-- An element added at the end is the best one exactly when it beats all others. -/
theorem firstBest_concat :
    firstBest score threshold (l ++ [a]) =
      if threshold ≤ score a ∧ ∀ b ∈ l, score b < score a then some a
      else firstBest score threshold l := by
  rw [firstBest, firstBest, List.argmax_concat]
  cases hl : l.argmax score with
  | none =>
      rw [List.argmax_eq_none.1 hl]
      by_cases hle : threshold ≤ score a
      · simp [hle]
      · rw [if_neg (fun h => hle h.1)]
        simp [lt_of_not_ge hle]
  | some m =>
      have hm : m ∈ l := List.argmax_mem hl
      by_cases hlt : score m < score a
      · have hall : ∀ b ∈ l, score b < score a := fun b hb =>
          lt_of_le_of_lt (List.le_of_mem_argmax hb hl) hlt
        by_cases hle : threshold ≤ score a
        · rw [if_pos ⟨hle, hall⟩]
          simp [hlt, hle]
        · -- the new element is the greatest and misses the threshold, as all do
          have hle' : ¬ threshold ≤ score m := fun h => hle (le_trans h (le_of_lt hlt))
          rw [if_neg (fun h => hle h.1)]
          simp only [if_pos hlt, Option.filter_some, decide_eq_true_eq, if_neg hle, if_neg hle']
      · rw [if_neg (fun h => hlt (h.2 m hm))]
        simp [hlt]

/-! ## A scan finds it -/

theorem keepGreater_keepGreater (start : β × α) (a b : α) :
    keepGreater (keepGreater start (score a, a)) (score b, b) =
      if score a < score b then keepGreater start (score b, b)
      else keepGreater start (score a, a) := by
  by_cases ha : start.1 < score a
  · have hkept : keepGreater start (score a, a) = (score a, a) := keepGreater_of_lt ha
    rw [hkept]
    by_cases hab : score a < score b
    · have hb : start.1 < score b := lt_trans ha hab
      rw [if_pos hab]
      exact (keepGreater_of_lt hab).trans (keepGreater_of_lt hb).symm
    · rw [if_neg hab]
      exact keepGreater_of_not_lt hab
  · have hkept : keepGreater start (score a, a) = start := keepGreater_of_not_lt ha
    rw [hkept]
    by_cases hab : score a < score b
    · rw [if_pos hab]
    · -- `b` scores no more than `a`, which does not beat the start
      have hb : ¬ start.1 < score b := fun h => ha (lt_of_lt_of_le h (le_of_not_gt hab))
      rw [if_neg hab]
      exact keepGreater_of_not_lt hb

/-- The scan ends with the first element of greatest score, or with its start. -/
theorem runningMax_map_eq (start : β × α) (l : List α) :
    runningMax start (l.map fun a => (score a, a)) =
      match l.argmax score with
      | none => start
      | some m => keepGreater start (score m, m) := by
  induction l using List.reverseRecOn with
  | nil => rfl
  | append_singleton l x ih =>
      have hlast : runningMax start ((l ++ [x]).map fun a => (score a, a)) =
          keepGreater (runningMax start (l.map fun a => (score a, a))) (score x, x) := by
        simp [runningMax]
      rw [hlast, ih, List.argmax_concat]
      cases l.argmax score with
      | none => rfl
      | some m =>
          by_cases hlt : score m < score x
          · simp only [keepGreater_keepGreater, if_pos hlt]
          · simp only [keepGreater_keepGreater, if_neg hlt]

end ArmFaceID.Library
