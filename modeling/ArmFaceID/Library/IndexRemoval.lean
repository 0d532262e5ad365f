import Mathlib.Data.List.Nodup
import Mathlib.Data.List.ReduceOption

/-!
# Removing entries of a list by their positions

`others is l` are the entries of `l` at positions that are not in `is`, in their order. Two ways to
remove them one after another end there: taking each out at once, so that later entries move up,
when the positions come in descending order (`foldl_eraseIdx`), and putting a blank in each place, in
any order, and dropping the blanks at the end (`reduceOption_foldl_set`).
-/

set_option autoImplicit false

namespace ArmFaceID.Library

universe u v

variable {α : Type u}

/-- The entries whose position, counted from `k`, is not in `is`. -/
def othersFrom (k : Nat) (is : List Nat) (l : List α) : List α :=
  ((l.zipIdx k).filter fun p => decide (p.2 ∉ is)).map Prod.fst

/-- The entries whose position is not in `is`. -/
def others (is : List Nat) (l : List α) : List α := othersFrom 0 is l

@[simp] theorem othersFrom_nil (k : Nat) (is : List Nat) : othersFrom k is ([] : List α) = [] := rfl

theorem othersFrom_cons (k : Nat) (is : List Nat) (x : α) (l : List α) :
    othersFrom k is (x :: l) =
      if k ∈ is then othersFrom (k + 1) is l else x :: othersFrom (k + 1) is l := by
  rw [othersFrom, List.zipIdx_cons, List.filter_cons]
  by_cases h : k ∈ is <;> simp [h, othersFrom]

theorem othersFrom_append (k : Nat) (is : List Nat) (a b : List α) :
    othersFrom k is (a ++ b) = othersFrom k is a ++ othersFrom (k + a.length) is b := by
  simp only [othersFrom, List.zipIdx_append, List.filter_append, List.map_append]

/-- Before the first entry there is nothing to remove. -/
theorem othersFrom_of_lt {k : Nat} {is : List Nat} (h : ∀ i ∈ is, i < k) (l : List α) :
    othersFrom k is l = l := by
  induction l generalizing k with
  | nil => rfl
  | cons x l ih =>
      have hk : k ∉ is := fun hmem => Nat.lt_irrefl k (h k hmem)
      rw [othersFrom_cons, if_neg hk, ih fun i hi => Nat.lt_succ_of_lt (h i hi)]

/-- Positions up to the length may be added to those removed. -/
theorem othersFrom_congr {k : Nat} {is js : List Nat} {l : List α}
    (h : ∀ i, k ≤ i → i < k + l.length → (i ∈ is ↔ i ∈ js)) :
    othersFrom k is l = othersFrom k js l := by
  induction l generalizing k with
  | nil => rfl
  | cons x l ih =>
      have hrest : othersFrom (k + 1) is l = othersFrom (k + 1) js l := by
        apply ih
        intro i hle hlt
        apply h i (by omega)
        rw [List.length_cons]
        omega
      have hk : k ∈ is ↔ k ∈ js := h k (Nat.le_refl k) (by simp)
      rw [othersFrom_cons, othersFrom_cons, hrest]
      simp only [hk]

/-- Taking out the last position to go: the positions before it mean what they meant. -/
theorem others_eraseIdx {i : Nat} {is : List Nat} (h : ∀ j ∈ is, j < i) (l : List α) :
    others is (l.eraseIdx i) = others (i :: is) l := by
  by_cases hi : i < l.length
  · have hsplit : l = l.take i ++ l[i] :: l.drop (i + 1) := by
      rw [List.getElem_cons_drop, List.take_append_drop]
    have hlen : (l.take i).length = i := List.length_take_of_le (Nat.le_of_lt hi)
    have hbefore : othersFrom 0 (i :: is) (l.take i) = othersFrom 0 is (l.take i) := by
      apply othersFrom_congr
      intro j _ hj
      have hne : j ≠ i := by omega
      rw [List.mem_cons, or_iff_right hne]
    have hafter : othersFrom (i + 1) (i :: is) (l.drop (i + 1)) = l.drop (i + 1) := by
      apply othersFrom_of_lt
      intro j hj
      rcases List.mem_cons.1 hj with rfl | hj
      · exact Nat.lt_succ_self j
      · exact Nat.lt_succ_of_lt (h j hj)
    calc others is (l.eraseIdx i)
        = othersFrom 0 is (l.take i ++ l.drop (i + 1)) := by
          rw [others, List.eraseIdx_eq_take_drop_succ]
      _ = othersFrom 0 is (l.take i) ++ l.drop (i + 1) := by
          rw [othersFrom_append, hlen, Nat.zero_add, othersFrom_of_lt h]
      _ = othersFrom 0 (i :: is) (l.take i) ++
            othersFrom i (i :: is) (l[i] :: l.drop (i + 1)) := by
          rw [hbefore, othersFrom_cons, if_pos List.mem_cons_self, hafter]
      _ = others (i :: is) l := by
          conv_rhs => rw [hsplit]
          rw [others, othersFrom_append, hlen, Nat.zero_add]
  · -- no entry stands there
    rw [List.eraseIdx_of_length_le (Nat.le_of_not_lt hi)]
    apply othersFrom_congr
    intro j _ hj
    have hne : j ≠ i := by omega
    rw [List.mem_cons, or_iff_right hne]

/-- Positions in descending order, taken out one after another. -/
theorem foldl_eraseIdx {is : List Nat} (h : is.Pairwise (· > ·)) (l : List α) :
    is.foldl List.eraseIdx l = others is l := by
  induction is generalizing l with
  | nil => exact (othersFrom_of_lt (fun _ hi => absurd hi List.not_mem_nil) l).symm
  | cons i is ih =>
      obtain ⟨hlt, hrest⟩ := List.pairwise_cons.1 h
      rw [List.foldl_cons, ih hrest, others_eraseIdx hlt]

/-! ## Blanks -/

theorem othersFrom_map {β : Type v} (f : α → β) (k : Nat) (is : List Nat) (l : List α) :
    othersFrom k is (l.map f) = (othersFrom k is l).map f := by
  induction l generalizing k with
  | nil => rfl
  | cons x l ih =>
      rw [List.map_cons, othersFrom_cons, othersFrom_cons, ih]
      split
      · rfl
      · rw [List.map_cons]

/-- A blank put in one place takes its entry away, whether the place is looked at or not. -/
theorem reduceOption_othersFrom_set (k i : Nat) (is : List Nat) (l : List (Option α)) :
    (othersFrom k is (l.set i none)).reduceOption =
      (othersFrom k ((k + i) :: is) l).reduceOption := by
  induction l generalizing k i with
  | nil => rfl
  | cons x l ih =>
      cases i with
      | zero =>
          have hrest : othersFrom (k + 1) (k :: is) l = othersFrom (k + 1) is l := by
            apply othersFrom_congr
            intro j hj _
            have hne : j ≠ k := by omega
            rw [List.mem_cons, or_iff_right hne]
          have hzero : (k + 0) :: is = k :: is := rfl
          rw [hzero, List.set_cons_zero, othersFrom_cons, othersFrom_cons,
            if_pos List.mem_cons_self, hrest]
          split
          · rfl
          · rfl
      | succ i =>
          have hk : k ∈ (k + (i + 1)) :: is ↔ k ∈ is := by
            have hne : k ≠ k + (i + 1) := by omega
            rw [List.mem_cons, or_iff_right hne]
          have hsum : k + (i + 1) = k + 1 + i := by omega
          have hrest := ih (k + 1) i
          rw [← hsum] at hrest
          rw [List.set_cons_succ, othersFrom_cons, othersFrom_cons]
          simp only [hk]
          split
          · exact hrest
          · cases x with
            | none => exact hrest
            | some y => exact congrArg (y :: ·) hrest

theorem reduceOption_foldl_set_from (is : List Nat) (l : List (Option α)) :
    (is.foldl (fun l i => l.set i none) l).reduceOption = (others is l).reduceOption := by
  induction is generalizing l with
  | nil => rw [others, othersFrom_of_lt (fun _ hi => absurd hi List.not_mem_nil), List.foldl_nil]
  | cons i is ih =>
      rw [List.foldl_cons, ih, others, others, reduceOption_othersFrom_set, Nat.zero_add]

/-- A blank put in each of the places, in any order, and the blanks dropped. -/
theorem reduceOption_foldl_set (is : List Nat) (l : List α) :
    (is.foldl (fun l i => l.set i none) (l.map some)).reduceOption = others is l := by
  have hsome : ∀ l : List α, (l.map some).reduceOption = l := by
    intro l
    induction l with
    | nil => rfl
    | cons x l ih => rw [List.map_cons, List.reduceOption_cons_of_some, ih]
  rw [reduceOption_foldl_set_from, others, othersFrom_map, hsome, others]

end ArmFaceID.Library
