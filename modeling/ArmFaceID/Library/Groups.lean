import Mathlib.Data.List.SplitBy
import Mathlib.Data.List.Induction
import Mathlib.Data.List.Nodup

/-!
# First members of the groups of a list

`List.splitBy r` cuts a list into maximal groups in which `r` holds of every two neighbours. The
first members of the groups change in one way when an element is added at the end: the new element
is the first of a group exactly when it is not related to the last element so far.
-/

set_option autoImplicit false

namespace ArmFaceID.Library

universe u

variable {α : Type u}

/-- The first members of the groups of `l`. -/
def groupHeads (r : α → α → Bool) (l : List α) : List α :=
  (l.splitBy r).filterMap List.head?

@[simp] theorem groupHeads_nil (r : α → α → Bool) : groupHeads r [] = [] := rfl

/-- Every group has a first member. -/
theorem groupHeads_map_some (r : α → α → Bool) (l : List α) :
    (groupHeads r l).map some = (l.splitBy r).map List.head? := by
  have key : ∀ gs : List (List α), [] ∉ gs →
      (gs.filterMap List.head?).map some = gs.map List.head? := by
    intro gs hgs
    induction gs with
    | nil => rfl
    | cons g gs ih =>
        rw [List.mem_cons, not_or] at hgs
        obtain ⟨hg, hgs⟩ := hgs
        cases g with
        | nil => exact absurd rfl hg
        | cons a g => simp [ih hgs]
  exact key _ (List.nil_notMem_splitBy r l)

theorem groupHeads_length (r : α → α → Bool) (l : List α) :
    (groupHeads r l).length = (l.splitBy r).length := by
  have h := congrArg List.length (groupHeads_map_some r l)
  simpa using h

theorem mem_groupHeads {r : α → α → Bool} {l : List α} {a : α} :
    a ∈ groupHeads r l ↔ ∃ g ∈ l.splitBy r, g.head? = some a := List.mem_filterMap

theorem mem_of_mem_splitBy {r : α → α → Bool} {l g : List α} (hg : g ∈ l.splitBy r) {a : α}
    (ha : a ∈ g) : a ∈ l := by
  rw [← List.flatten_splitBy r l]
  exact List.mem_flatten_of_mem hg ha

theorem groupHeads_sublist (r : α → α → Bool) (l : List α) : (groupHeads r l).Sublist l := by
  have key : ∀ gs : List (List α), (gs.filterMap List.head?).Sublist gs.flatten := by
    intro gs
    induction gs with
    | nil => exact List.Sublist.slnil
    | cons g gs ih =>
        cases g with
        | nil => exact ih
        | cons a g => exact (ih.trans (List.sublist_append_right g gs.flatten)).cons_cons a
  have h := key (l.splitBy r)
  rwa [List.flatten_splitBy] at h

section Nodup

variable {r : α → α → Bool} {l g g' : List α} {a : α}

theorem groupHeads_nodup (hl : l.Nodup) : (groupHeads r l).Nodup :=
  hl.sublist (groupHeads_sublist r l)

theorem nodup_of_mem_splitBy (hl : l.Nodup) (hg : g ∈ l.splitBy r) : g.Nodup := by
  rw [← List.flatten_splitBy r l, List.nodup_flatten] at hl
  exact hl.1 g hg

/-- The groups of a list without repetition have no element in common. -/
theorem splitBy_eq_of_mem (hl : l.Nodup) (hg : g ∈ l.splitBy r) (hg' : g' ∈ l.splitBy r)
    (ha : a ∈ g) (ha' : a ∈ g') : g = g' := by
  rw [← List.flatten_splitBy r l, List.nodup_flatten] at hl
  by_contra hne
  have hsymm : Std.Symm (List.Disjoint (α := α)) := ⟨fun _ _ h => List.disjoint_symm h⟩
  exact hl.2.forall hg hg' hne ha ha'

/-- A first member is the first of every group it is in. -/
theorem head?_eq_of_mem_groupHeads (hl : l.Nodup) (hg : g ∈ l.splitBy r) (ha : a ∈ g)
    (hhead : a ∈ groupHeads r l) : g.head? = some a := by
  obtain ⟨g', hg', hfirst⟩ := mem_groupHeads.1 hhead
  rw [splitBy_eq_of_mem hl hg hg' ha (List.mem_of_head? hfirst)]
  exact hfirst

/-- Of all first members, a group contains its own only. -/
theorem filter_groupHeads_mem [DecidableEq α] (hl : l.Nodup) (hg : g ∈ l.splitBy r)
    (hfirst : g.head? = some a) : (groupHeads r l).filter (fun b => decide (b ∈ g)) = [a] := by
  have hmem : a ∈ groupHeads r l := mem_groupHeads.2 ⟨g, hg, hfirst⟩
  have honly : ∀ b ∈ groupHeads r l, decide (b ∈ g) = decide (b = a) := by
    intro b hb
    rw [decide_eq_decide]
    constructor
    · intro hbg
      have := head?_eq_of_mem_groupHeads hl hg hbg hb
      rw [hfirst] at this
      exact (Option.some.inj this).symm
    · rintro rfl
      exact List.mem_of_head? hfirst
  have hone : (groupHeads r l).count a = 1 := List.count_eq_one_of_mem (groupHeads_nodup hl) hmem
  rw [List.filter_congr honly, List.filter_eq, hone, List.replicate_one]

end Nodup

/-- An element that the last one is not related to starts a group. -/
theorem groupHeads_snoc_new {r : α → α → Bool} {l : List α} {a : α}
    (h : ∀ x ∈ l.getLast?, r x a = false) : groupHeads r (l ++ [a]) = groupHeads r l ++ [a] := by
  rw [groupHeads, groupHeads, List.splitBy_append_cons [] h, List.filterMap_append]
  rfl

/-- An element related to the last one joins its group. -/
theorem splitBy_snoc_same {r : α → α → Bool} {l : List α} {x a : α}
    (hx : l.getLast? = some x) (h : r x a = true) :
    ∃ gs g, l.splitBy r = gs ++ [g] ∧ g ≠ [] ∧ (l ++ [a]).splitBy r = gs ++ [g ++ [a]] := by
  have hl : l ≠ [] := by
    rintro rfl
    cases hx
  obtain ⟨gs, g, hgs⟩ := (List.eq_nil_or_concat (l.splitBy r)).resolve_left
    (List.splitBy_ne_nil.2 hl)
  rw [List.concat_eq_append] at hgs
  have hmem : g ∈ l.splitBy r := by
    rw [hgs]
    exact List.mem_append_right _ List.mem_cons_self
  have hg : g ≠ [] := List.ne_nil_of_mem_splitBy hmem
  -- `splitBy_eq_iff` characterises the groups: extend the last one and check its clauses
  obtain ⟨hflat, hnil, hchain, hcut⟩ := List.splitBy_eq_iff.1 hgs
  have hlast : g.getLast? = some x := by
    rw [← hx, hflat]
    simp [List.getLast?_append, List.getLast?_eq_some_getLast hg]
  refine ⟨gs, g, hgs, hg, List.splitBy_eq_iff.2 ⟨by rw [hflat]; simp, ?_, ?_, ?_⟩⟩
  · simp only [List.mem_append, List.mem_singleton, not_or] at hnil ⊢
    exact ⟨hnil.1, by simp⟩
  · intro m hm
    rcases List.mem_append.1 hm with hm | hm
    · exact hchain m (List.mem_append_left _ hm)
    · rw [List.mem_singleton.1 hm, List.isChain_append]
      refine ⟨hchain g (by simp), List.isChain_singleton a, ?_⟩
      intro y hy z hz
      rw [hlast] at hy
      cases hy
      cases hz
      exact h
  · rw [List.isChain_append] at hcut ⊢
    refine ⟨hcut.1, List.isChain_singleton _, ?_⟩
    intro y hy z hz
    cases hz
    obtain ⟨hy', hg', hr⟩ := hcut.2.2 y hy g rfl
    refine ⟨hy', by simp, ?_⟩
    rwa [List.head_append_of_ne_nil hg']

theorem groupHeads_snoc_same {r : α → α → Bool} {l : List α} {x a : α}
    (hx : l.getLast? = some x) (h : r x a = true) :
    groupHeads r (l ++ [a]) = groupHeads r l := by
  obtain ⟨gs, g, hgs, hg, hsnoc⟩ := splitBy_snoc_same hx h
  rw [groupHeads, groupHeads, hgs, hsnoc, List.filterMap_append, List.filterMap_append]
  cases g with
  | nil => exact absurd rfl hg
  | cons b g => rfl

/-! ## Groups of parts -/

/-- Renaming the elements renames the first members. -/
theorem groupHeads_map {β : Type u} {r : α → α → Bool} {r' : β → β → Bool} {f : α → β}
    (h : ∀ a b, r' (f a) (f b) = r a b) (l : List α) :
    groupHeads r' (l.map f) = (groupHeads r l).map f := by
  induction l using List.reverseRecOn with
  | nil => rfl
  | append_singleton l a ih =>
      rw [List.map_append, List.map_singleton]
      by_cases hnew : ∀ x ∈ l.getLast?, r x a = false
      · have hnew' : ∀ y ∈ (l.map f).getLast?, r' y (f a) = false := by
          intro y hy
          rw [List.getLast?_map] at hy
          obtain ⟨x, hx, rfl⟩ := Option.map_eq_some_iff.1 hy
          rw [h]
          exact hnew x hx
        rw [groupHeads_snoc_new hnew', groupHeads_snoc_new hnew, ih, List.map_append,
          List.map_singleton]
      · simp only [not_forall, Bool.not_eq_false] at hnew
        obtain ⟨x, hx, hrel⟩ := hnew
        have hx' : (l.map f).getLast? = some (f x) := by
          rw [List.getLast?_map, hx]
          rfl
        have hrel' : r' (f x) (f a) = true := by
          rw [h]
          exact hrel
        rw [groupHeads_snoc_same hx' hrel', groupHeads_snoc_same hx hrel, ih]

/-- One more element makes as many groups more after a longer list as after its last part. -/
theorem groupHeads_length_snoc (r : α → α → Bool) (l : List α) {m : List α} (hm : m ≠ []) (a : α) :
    (groupHeads r (l ++ m ++ [a])).length + (groupHeads r m).length =
      (groupHeads r (l ++ m)).length + (groupHeads r (m ++ [a])).length := by
  have hlast : (l ++ m).getLast? = m.getLast? := List.getLast?_append_of_ne_nil l hm
  by_cases hnew : ∀ x ∈ m.getLast?, r x a = false
  · rw [groupHeads_snoc_new hnew, groupHeads_snoc_new (by rw [hlast]; exact hnew)]
    simp only [List.length_append, List.length_singleton]
    omega
  · simp only [not_forall, Bool.not_eq_false] at hnew
    obtain ⟨x, hx, hrel⟩ := hnew
    rw [groupHeads_snoc_same hx hrel, groupHeads_snoc_same (hlast.trans hx) hrel]

/-- Cutting a list in two cuts at most one group: the parts have as many groups as the whole, or one
more. -/
theorem groupHeads_length_append (r : α → α → Bool) (l m : List α) :
    (groupHeads r (l ++ m)).length ≤ (groupHeads r l).length + (groupHeads r m).length ∧
      (groupHeads r l).length + (groupHeads r m).length ≤ (groupHeads r (l ++ m)).length + 1 := by
  induction m using List.reverseRecOn with
  | nil =>
      rw [List.append_nil]
      exact ⟨Nat.le_add_right _ _, Nat.le_succ _⟩
  | append_singleton m a ih =>
      by_cases hm : m = []
      · subst hm
        have hone : (groupHeads r ([] ++ [a])).length = 1 := rfl
        rw [hone, List.nil_append]
        by_cases hnew : ∀ x ∈ l.getLast?, r x a = false
        · rw [groupHeads_snoc_new hnew, List.length_append, List.length_singleton]
          omega
        · simp only [not_forall, Bool.not_eq_false] at hnew
          obtain ⟨x, hx, hrel⟩ := hnew
          rw [groupHeads_snoc_same hx hrel]
          omega
      · have hstep := groupHeads_length_snoc r l hm a
        rw [← List.append_assoc]
        omega

end ArmFaceID.Library
