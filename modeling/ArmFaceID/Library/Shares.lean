import Mathlib.Data.List.Basic
import Mathlib.Data.List.Induction

/-!
# Who took what

Several takers share the elements of one sequence: the log lists what was taken, each element with
its taker, in the order of taking. `share i` is what taker `i` got. When the takers take turns, one
after another and never back, the shares put together are the whole sequence (`flatMap_share`).
-/

set_option autoImplicit false

namespace ArmFaceID.Library

universe u

variable {α : Type u}

/-- What taker `i` got, in order. -/
def share (i : Nat) (log : List (Nat × α)) : List α :=
  log.filterMap fun p => if p.1 = i then some p.2 else none

@[simp] theorem share_nil (i : Nat) : share i ([] : List (Nat × α)) = [] := rfl

theorem share_append (i : Nat) (log log' : List (Nat × α)) :
    share i (log ++ log') = share i log ++ share i log' := List.filterMap_append

theorem share_snoc_self (i : Nat) (log : List (Nat × α)) (a : α) :
    share i (log ++ [(i, a)]) = share i log ++ [a] := by
  rw [share_append]
  simp [share]

theorem share_snoc_ne {i j : Nat} (h : j ≠ i) (log : List (Nat × α)) (a : α) :
    share i (log ++ [(j, a)]) = share i log := by
  rw [share_append]
  simp [share, h]

/-- A taker that does not occur in the log got nothing. -/
theorem share_eq_nil {i : Nat} {log : List (Nat × α)} (h : ∀ p ∈ log, p.1 ≠ i) :
    share i log = [] := by
  rw [share, List.filterMap_eq_nil_iff]
  intro p hp
  rw [if_neg (h p hp)]

/-- Takers that got nothing add nothing. -/
theorem flatMap_share_add {n : Nat} {log : List (Nat × α)} (h : ∀ p ∈ log, p.1 < n) (m : Nat) :
    (List.range (n + m)).flatMap (fun i => share i log) =
      (List.range n).flatMap (fun i => share i log) := by
  induction m with
  | zero => rfl
  | succ m ih =>
      have hnone : share (n + m) log = [] := by
        apply share_eq_nil
        intro p hp
        have := h p hp
        omega
      rw [← Nat.add_assoc, List.range_succ, List.flatMap_append, ih, List.flatMap_singleton, hnone,
        List.append_nil]

/-- Takers that take turns in the order of their numbers: their shares make up the sequence. -/
theorem flatMap_share {n : Nat} {log : List (Nat × α)}
    (hturns : (log.map Prod.fst).Pairwise (· ≤ ·)) (hbound : ∀ p ∈ log, p.1 < n) :
    (List.range n).flatMap (fun i => share i log) = log.map Prod.snd := by
  induction log using List.reverseRecOn generalizing n with
  | nil => simp
  | append_singleton log p ih =>
      obtain ⟨i, a⟩ := p
      rw [List.map_append, List.pairwise_append] at hturns
      obtain ⟨hturns, -, hlast⟩ := hturns
      -- the last taker so far is `i`; later ones got nothing
      have hbefore : ∀ p ∈ log, p.1 < i + 1 := by
        intro p hp
        exact Nat.lt_succ_of_le (hlast p.1 (List.mem_map_of_mem hp) i List.mem_cons_self)
      have hall : ∀ p ∈ log ++ [(i, a)], p.1 < i + 1 := by
        intro p hp
        rcases List.mem_append.1 hp with hp | hp
        · exact hbefore p hp
        · rw [List.mem_singleton.1 hp]
          exact Nat.lt_succ_self i
      have hi : i < n := hbound (i, a) (List.mem_append_right _ List.mem_cons_self)
      have hearlier : (List.range i).flatMap (fun j => share j (log ++ [(i, a)])) =
          (List.range i).flatMap (fun j => share j log) := by
        apply List.flatMap_congr
        intro j hj
        exact share_snoc_ne (Nat.ne_of_gt (List.mem_range.1 hj)) log a
      calc (List.range n).flatMap (fun j => share j (log ++ [(i, a)]))
          = (List.range (i + 1)).flatMap (fun j => share j (log ++ [(i, a)])) := by
            rw [← flatMap_share_add hall (n - (i + 1)), Nat.add_sub_cancel' hi]
        _ = (List.range i).flatMap (fun j => share j log) ++ (share i log ++ [a]) := by
            rw [List.range_succ, List.flatMap_append, hearlier, List.flatMap_singleton,
              share_snoc_self]
        _ = (List.range (i + 1)).flatMap (fun j => share j log) ++ [a] := by
            rw [List.range_succ, List.flatMap_append, List.flatMap_singleton, List.append_assoc]
        _ = (log ++ [(i, a)]).map Prod.snd := by
            rw [ih hturns hbefore, List.map_append, List.map_singleton]

end ArmFaceID.Library
