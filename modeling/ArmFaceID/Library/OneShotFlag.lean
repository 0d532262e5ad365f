import Mathlib.Data.List.Basic
import Mathlib.Data.List.Range

/-!
# A flag raised by some events and taken down by others

Along a list of events, `raises` says which events raise the flag and `takes` which ones take it
down. The flag is up before position `k` (`RaisedAt`) when some earlier event raised it and no event
after that one, up to `k`, took it down. `takingPositions` lists the events that find the flag up
when they take it down.

The two `snoc` lemmas say how both change when an event is added at the end; a system that keeps the
flag in one bit follows them step by step.
-/

set_option autoImplicit false

namespace ArmFaceID.Library

universe u

variable {ε : Type u} (raises takes : ε → Bool)

/-- The event at position `k` is there and satisfies `p`. -/
def OccursAt (p : ε → Bool) (es : List ε) (k : Nat) : Prop := es[k]?.any p = true

instance (p : ε → Bool) (es : List ε) (k : Nat) : Decidable (OccursAt p es k) :=
  inferInstanceAs (Decidable (_ = _))

/-- The flag is up before position `k`. -/
def RaisedAt (es : List ε) (k : Nat) : Prop :=
  ∃ j, j < k ∧ OccursAt raises es j ∧ ∀ m, m < k → j < m → ¬ OccursAt takes es m

instance (es : List ε) (k : Nat) : Decidable (RaisedAt raises takes es k) :=
  inferInstanceAs (Decidable (∃ j, j < k ∧ _))

/-- The positions of the events that take the flag down when it is up, in order. -/
def takingPositions (es : List ε) : List Nat :=
  (List.range es.length).filter fun k =>
    decide (OccursAt takes es k ∧ RaisedAt raises takes es k)

section Snoc

variable {raises takes} {p : ε → Bool} {es : List ε} {e : ε} {k : Nat}

theorem occursAt_snoc_of_lt (h : k < es.length) :
    OccursAt p (es ++ [e]) k ↔ OccursAt p es k := by
  rw [OccursAt, OccursAt, List.getElem?_append_left h]

theorem occursAt_snoc_last : OccursAt p (es ++ [e]) es.length ↔ p e = true := by
  simp [OccursAt]

theorem raisedAt_snoc_of_le (h : k ≤ es.length) :
    RaisedAt raises takes (es ++ [e]) k ↔ RaisedAt raises takes es k := by
  unfold RaisedAt
  apply exists_congr
  intro j
  apply and_congr_right
  intro hj
  rw [occursAt_snoc_of_lt (by omega)]
  apply and_congr_right
  intro _
  apply forall_congr'
  intro m
  apply imp_congr_right
  intro hm
  rw [occursAt_snoc_of_lt (by omega)]

/-- After one more event the flag is up if that event raised it, or left it up. -/
theorem raisedAt_snoc_last :
    RaisedAt raises takes (es ++ [e]) (es.length + 1) ↔
      raises e = true ∨ takes e = false ∧ RaisedAt raises takes es es.length := by
  constructor
  · rintro ⟨j, hj, hraise, htakes⟩
    rcases Nat.lt_succ_iff_lt_or_eq.1 hj with hlt | rfl
    · -- raised earlier: the last event did not take it down
      refine Or.inr ⟨?_, j, hlt, (occursAt_snoc_of_lt hlt).1 hraise, ?_⟩
      · have hlast := htakes es.length (Nat.lt_succ_self _) hlt
        rw [occursAt_snoc_last] at hlast
        exact Bool.not_eq_true _ ▸ hlast
      · intro m hm hjm hoccurs
        exact htakes m (by omega) hjm ((occursAt_snoc_of_lt hm).2 hoccurs)
    · exact Or.inl (occursAt_snoc_last.1 hraise)
  · rintro (hraise | ⟨htake, j, hj, hraise, htakes⟩)
    · refine ⟨es.length, Nat.lt_succ_self _, occursAt_snoc_last.2 hraise, ?_⟩
      intro m hm hlt
      omega
    · refine ⟨j, by omega, (occursAt_snoc_of_lt hj).2 hraise, ?_⟩
      intro m hm hjm hoccurs
      rcases Nat.lt_succ_iff_lt_or_eq.1 hm with hlt | rfl
      · exact htakes m hlt hjm ((occursAt_snoc_of_lt hlt).1 hoccurs)
      · rw [occursAt_snoc_last, htake] at hoccurs
        cases hoccurs

theorem takingPositions_snoc :
    takingPositions raises takes (es ++ [e]) = takingPositions raises takes es ++
      if takes e = true ∧ RaisedAt raises takes es es.length then [es.length] else [] := by
  rw [takingPositions, takingPositions, List.length_append, List.length_singleton,
    List.range_succ, List.filter_append]
  congr 1
  · apply List.filter_congr
    intro k hk
    have hlt : k < es.length := List.mem_range.1 hk
    simp only [occursAt_snoc_of_lt hlt, raisedAt_snoc_of_le (le_of_lt hlt)]
  · rw [List.filter_singleton, Bool.cond_decide]
    simp only [occursAt_snoc_last, raisedAt_snoc_of_le (le_refl es.length)]

theorem mem_takingPositions :
    k ∈ takingPositions raises takes es ↔
      OccursAt takes es k ∧ RaisedAt raises takes es k := by
  rw [takingPositions, List.mem_filter, List.mem_range, decide_eq_true_eq]
  constructor
  · exact fun h => h.2
  · intro h
    refine ⟨?_, h⟩
    by_contra hge
    have hnone : es[k]? = none := List.getElem?_eq_none (not_lt.1 hge)
    have hoccurs := h.1
    rw [OccursAt, hnone] at hoccurs
    cases hoccurs

/-- No event takes the flag twice. -/
theorem takingPositions_pairwise : (takingPositions raises takes es).Pairwise (· < ·) :=
  List.Pairwise.filter _ List.pairwise_lt_range

/-- Nothing raised is lost: when a taking event follows a raising one, the first to do so finds the
flag up. -/
theorem exists_mem_takingPositions {j : Nat} (hj : OccursAt raises es j) (hjk : j < k)
    (hk : OccursAt takes es k) : ∃ k', j < k' ∧ k' ≤ k ∧ k' ∈ takingPositions raises takes es := by
  induction k using Nat.strongRecOn with
  | ind k ih =>
      -- either a taking event lies in between, or `k` is the first
      by_cases hbetween : ∃ m, m < k ∧ j < m ∧ OccursAt takes es m
      · obtain ⟨m, hmk, hjm, hm⟩ := hbetween
        obtain ⟨k', hjk', hle, hmem⟩ := ih m hmk hjm hm
        exact ⟨k', hjk', by omega, hmem⟩
      · refine ⟨k, hjk, le_refl k, mem_takingPositions.2 ⟨hk, j, hjk, hj, ?_⟩⟩
        exact fun m hm hjm hoccurs => hbetween ⟨m, hm, hjm, hoccurs⟩

end Snoc

end ArmFaceID.Library
