import Mathlib.Data.List.Induction

/-!
# A store and a copy of it

Records are added to a store and removed from it. A copy beside it takes over the contents of the
store at times, is dropped at others, and lags behind in between. `replay` says what a history of such
changes leaves. Who is in the store, or in the copy, can be told from the history alone
(`mem_store_replay`, `mem_copy_replay`).
-/

set_option autoImplicit false

namespace ArmFaceID.Library

universe u

/-- A change of the store or of the copy. -/
inductive Change (ρ : Type u) where
  | added (r : ρ)
  | removed (r : ρ)
  | copied
  | dropped
  deriving DecidableEq

/-- The store, oldest record first, and the copy. -/
structure Replica (ρ : Type u) where
  store : List ρ := []
  copy : List ρ := []
  deriving DecidableEq

variable {ρ : Type u} {r : ρ} {before after changes : List (Change ρ)}

/-- The records added. -/
def addedIn (changes : List (Change ρ)) : List ρ :=
  changes.filterMap fun
    | .added r => some r
    | .removed _ => none
    | .copied => none
    | .dropped => none

theorem addedIn_append (changes more : List (Change ρ)) :
    addedIn (changes ++ more) = addedIn changes ++ addedIn more := List.filterMap_append

/-- No change is one of the copy. -/
def CopyKept (changes : List (Change ρ)) : Prop := .copied ∉ changes ∧ .dropped ∉ changes

/-- A place in a history is its end or a place in the history so far. -/
theorem exists_split_snoc {c x : Change ρ} {P : List (Change ρ) → List (Change ρ) → Prop} :
    (∃ before after, changes ++ [c] = before ++ x :: after ∧ P before after) ↔
      c = x ∧ P changes [] ∨
        ∃ before after, changes = before ++ x :: after ∧ P before (after ++ [c]) := by
  constructor
  · rintro ⟨before, after, hsplit, hP⟩
    rcases List.eq_nil_or_concat after with rfl | ⟨after, c', rfl⟩
    · obtain ⟨rfl, hc⟩ := List.append_inj' hsplit rfl
      exact Or.inl ⟨List.singleton_inj.1 hc, hP⟩
    · rw [List.concat_eq_append, ← List.cons_append, ← List.append_assoc] at hsplit
      obtain ⟨rfl, hc⟩ := List.append_inj' hsplit rfl
      rw [List.concat_eq_append, ← List.singleton_inj.1 hc] at hP
      exact Or.inr ⟨before, after, rfl, hP⟩
  · rintro (⟨rfl, hP⟩ | ⟨before, after, rfl, hP⟩)
    · exact ⟨changes, [], rfl, hP⟩
    · exact ⟨before, after ++ [c], by rw [List.append_assoc, List.cons_append], hP⟩

variable [DecidableEq ρ]

/-- One change. -/
def Replica.apply (s : Replica ρ) : Change ρ → Replica ρ
  | .added r => { s with store := s.store ++ [r] }
  | .removed r => { s with store := s.store.filter fun x => decide (x ≠ r) }
  | .copied => { s with copy := s.store }
  | .dropped => { s with copy := [] }

/-- Changes, oldest first. -/
def Replica.applyAll (s : Replica ρ) (changes : List (Change ρ)) : Replica ρ :=
  changes.foldl Replica.apply s

theorem Replica.applyAll_append (s : Replica ρ) (changes more : List (Change ρ)) :
    s.applyAll (changes ++ more) = (s.applyAll changes).applyAll more := List.foldl_append

/-- What a history leaves. -/
def replay (changes : List (Change ρ)) : Replica ρ := ({} : Replica ρ).applyAll changes

theorem replay_append (changes more : List (Change ρ)) :
    replay (changes ++ more) = (replay changes).applyAll more :=
  Replica.applyAll_append {} changes more

theorem replay_snoc (changes : List (Change ρ)) (c : Change ρ) :
    replay (changes ++ [c]) = (replay changes).apply c := replay_append changes [c]

/-- The store holds what was added and not removed since. -/
theorem mem_store_replay :
    r ∈ (replay changes).store ↔
      ∃ before after, changes = before ++ .added r :: after ∧ .removed r ∉ after := by
  induction changes using List.reverseRecOn with
  | nil =>
      refine iff_of_false List.not_mem_nil ?_
      rintro ⟨before, after, hsplit, -⟩
      exact absurd hsplit.symm (List.append_ne_nil_of_right_ne_nil before (List.cons_ne_nil _ _))
  | append_singleton changes c ih =>
      rw [replay_snoc, exists_split_snoc]
      cases c with
      | added x =>
          simp only [Replica.apply, List.mem_append, List.mem_singleton, ih, Change.added.injEq,
            reduceCtorEq, or_false, List.not_mem_nil, not_false_eq_true, and_true]
          rw [or_comm, eq_comm]
      | removed x =>
          simp only [Replica.apply, List.mem_filter, ih, decide_eq_true_eq, reduceCtorEq, false_and,
            false_or, List.mem_append, List.mem_singleton, not_or, Change.removed.injEq]
          constructor
          · rintro ⟨⟨before, after, hsplit, hnot⟩, hne⟩
            exact ⟨before, after, hsplit, hnot, hne⟩
          · rintro ⟨before, after, hsplit, hnot, hne⟩
            exact ⟨⟨before, after, hsplit, hnot⟩, hne⟩
      | copied =>
          simp only [Replica.apply, ih, reduceCtorEq, false_and, false_or, List.mem_append,
            List.mem_singleton, or_false]
      | dropped =>
          simp only [Replica.apply, ih, reduceCtorEq, false_and, false_or, List.mem_append,
            List.mem_singleton, or_false]

/-- The copy holds what the store held when it was last copied. -/
theorem mem_copy_iff_last :
    r ∈ (replay changes).copy ↔ ∃ before after, changes = before ++ .copied :: after ∧
      r ∈ (replay before).store ∧ CopyKept after := by
  induction changes using List.reverseRecOn with
  | nil =>
      refine iff_of_false List.not_mem_nil ?_
      rintro ⟨before, after, hsplit, -⟩
      exact absurd hsplit.symm (List.append_ne_nil_of_right_ne_nil before (List.cons_ne_nil _ _))
  | append_singleton changes c ih =>
      rw [replay_snoc, exists_split_snoc]
      simp only [CopyKept] at ih ⊢
      cases c with
      | added x =>
          simp only [Replica.apply, ih, reduceCtorEq, false_and, false_or, List.mem_append,
            List.mem_singleton, or_false]
      | removed x =>
          simp only [Replica.apply, ih, reduceCtorEq, false_and, false_or, List.mem_append,
            List.mem_singleton, or_false]
      | copied =>
          simp only [Replica.apply, true_and, List.not_mem_nil, not_false_eq_true, and_true,
            List.mem_append, List.mem_singleton, or_true, not_true_eq_false, false_and, and_false,
            exists_false, or_false]
      | dropped =>
          simp only [Replica.apply, List.not_mem_nil, reduceCtorEq, false_and, List.mem_append,
            List.mem_singleton, or_true, not_true_eq_false, and_false, exists_false, or_false]

/-- The copy holds what was added and not removed before the last copy was made. -/
theorem mem_copy_replay :
    r ∈ (replay changes).copy ↔ ∃ before between after,
      changes = before ++ .added r :: between ++ .copied :: after ∧ .removed r ∉ between ∧
        CopyKept after := by
  rw [mem_copy_iff_last]
  constructor
  · rintro ⟨seen, after, rfl, hmem, hkept⟩
    obtain ⟨before, between, rfl, hnot⟩ := mem_store_replay.1 hmem
    exact ⟨before, between, after, rfl, hnot, hkept⟩
  · rintro ⟨before, between, after, rfl, hnot, hkept⟩
    exact ⟨before ++ .added r :: between, after, rfl,
      mem_store_replay.2 ⟨before, between, rfl, hnot⟩, hkept⟩

end ArmFaceID.Library
