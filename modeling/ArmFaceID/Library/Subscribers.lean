import Mathlib.Data.List.Basic

/-!
# Subscribers with multiplicities

A hub keeps a list of subscribers in which one may stand several times. Publishing a message
delivers it to each entry of the list in turn; unsubscribing takes out the first entry found. What a
subscriber receives over a run depends on the run through one number alone, how often it stands in
the list: `copies` computes the number and `received_run` says what is received.
-/

set_option autoImplicit false

namespace ArmFaceID.Library

universe u v

variable {ω : Type u} {μ : Type v}

/-- A step of a hub. -/
inductive HubEvent (ω : Type u) (μ : Type v) where
  | subscribe (o : ω)
  | unsubscribe (o : ω)
  | publish (m : μ)
  | idle

/-- The subscribers and everything delivered so far, oldest first. -/
structure Hub (ω : Type u) (μ : Type v) where
  subscribers : List ω := []
  delivered : List (ω × μ) := []

variable [DecidableEq ω]

/-- One step. -/
def Hub.step (h : Hub ω μ) : HubEvent ω μ → Hub ω μ
  | .subscribe o => { h with subscribers := h.subscribers ++ [o] }
  | .unsubscribe o => { h with subscribers := h.subscribers.erase o }
  | .publish m => { h with delivered := h.delivered ++ h.subscribers.map fun o => (o, m) }
  | .idle => h

/-- A run. -/
def Hub.run (h : Hub ω μ) (es : List (HubEvent ω μ)) : Hub ω μ := es.foldl Hub.step h

/-- How often a subscriber stands in the list after an event, if it stood there `n` times. -/
def copiesAfter (o : ω) (n : Nat) : HubEvent ω μ → Nat
  | .subscribe o' => if o' = o then n + 1 else n
  | .unsubscribe o' => if o' = o then n - 1 else n
  | .publish _ => n
  | .idle => n

/-- How often it stands there after a run. -/
def copies (o : ω) (n : Nat) (es : List (HubEvent ω μ)) : Nat := es.foldl (copiesAfter o) n

/-- What a subscriber that stood in the list `n` times should receive: each message as often as it
stands there at that moment. -/
def due (o : ω) : Nat → List (HubEvent ω μ) → List μ
  | _, [] => []
  | n, .publish m :: es => List.replicate n m ++ due o n es
  | n, e :: es => due o (copiesAfter o n e) es

/-- The messages delivered to one subscriber. -/
def received (o : ω) (delivered : List (ω × μ)) : List μ :=
  (delivered.filter fun d => decide (d.1 = o)).map Prod.snd

theorem received_append (o : ω) (a b : List (ω × μ)) :
    received o (a ++ b) = received o a ++ received o b := by
  simp only [received, List.filter_append, List.map_append]

/-- One message to all entries comes once for each entry. -/
theorem received_map (o : ω) (subscribers : List ω) (m : μ) :
    received o (subscribers.map fun o' => (o', m)) = List.replicate (subscribers.count o) m := by
  induction subscribers with
  | nil => rfl
  | cons o' subscribers ih =>
      have hsplit : received o ((o' :: subscribers).map fun o' => (o', m)) =
          received o [(o', m)] ++ received o (subscribers.map fun o' => (o', m)) :=
        received_append o [(o', m)] _
      rw [hsplit, ih]
      by_cases h : o' = o
      · subst h
        rw [List.count_cons_self, List.replicate_succ]
        simp [received]
      · rw [List.count_cons_of_ne h]
        simp [received, h]

/-- The list and the number agree at every step. -/
theorem count_step (o : ω) (h : Hub ω μ) (e : HubEvent ω μ) :
    (h.step e).subscribers.count o = copiesAfter o (h.subscribers.count o) e := by
  cases e with
  | subscribe o' =>
      by_cases ho : o' = o
      · subst ho
        simp [Hub.step, copiesAfter]
      · simp [Hub.step, copiesAfter, ho]
  | unsubscribe o' =>
      by_cases ho : o' = o
      · subst ho
        simp [Hub.step, copiesAfter]
      · simp [Hub.step, copiesAfter, ho, List.count_erase_of_ne (Ne.symm ho)]
  | publish m => rfl
  | idle => rfl

theorem count_run (o : ω) (h : Hub ω μ) (es : List (HubEvent ω μ)) :
    (h.run es).subscribers.count o = copies o (h.subscribers.count o) es := by
  induction es generalizing h with
  | nil => rfl
  | cons e es ih =>
      show ((h.step e).run es).subscribers.count o = copies o (copiesAfter o _ e) es
      rw [ih, count_step]

/-- A subscriber receives over a run exactly what is due to it. -/
theorem received_run (o : ω) (h : Hub ω μ) (es : List (HubEvent ω μ)) :
    received o (h.run es).delivered =
      received o h.delivered ++ due o (h.subscribers.count o) es := by
  induction es generalizing h with
  | nil => exact (List.append_nil _).symm
  | cons e es ih =>
      have hrest : received o (h.run (e :: es)).delivered = received o (h.step e).delivered ++
          due o ((h.step e).subscribers.count o) es := ih (h.step e)
      rw [hrest, count_step]
      cases e with
      | publish m =>
          show received o (h.delivered ++ _) ++ _ = _
          rw [received_append, received_map, List.append_assoc]
          rfl
      | subscribe o' => rfl
      | unsubscribe o' => rfl
      | idle => rfl

/-- Taking out an entry of one subscriber leaves the others as they stand. -/
theorem filter_erase_ne (o : ω) (subscribers : List ω) :
    (subscribers.erase o).filter (fun o' => decide (o' ≠ o)) =
      subscribers.filter fun o' => decide (o' ≠ o) := by
  rw [← List.erase_filter]
  apply List.erase_of_not_mem
  intro hmem
  exact of_decide_eq_true (List.mem_filter.1 hmem).2 rfl

end ArmFaceID.Library
