import ArmFaceID.Library.LockedCalls
import ArmFaceID.Library.Machine

/-!
# Calls under a lock come to an end

In every state that keeps the lock with the thread that holds it (`Callers.LockKept`), the owner can
leave its scope by itself (`LockKept.releases`), and with the lock free each thread can make all its
calls by itself (`LockKept.completes`). So there is no deadlock: any threads can be brought to rest,
one after another, without a move of a thread that is not among them, the owner apart
(`LockKept.comes_to_rest`).
-/

set_option autoImplicit false

namespace ArmFaceID.Library

universe u v

variable {ι : Type u} {γ : Type v}

/-- How many moves the calls take: the scope around a call takes two. -/
def movesFor : List (Access γ) → Nat
  | [] => 0
  | access :: rest => (if access.locked then 4 else 2) + movesFor rest

namespace Caller

/-- How many moves the thread has yet to make. -/
def movesLeft : Caller γ → Nat
  | .outside calls => movesFor calls
  | .acquired _ rest => 3 + movesFor rest
  | .inside access rest => (if access.locked then 2 else 1) + movesFor rest
  | .left rest => 1 + movesFor rest

variable {caller caller' : Caller γ} {m : Move}

theorem movesLeft_next (h : caller.next m = some caller') :
    caller.movesLeft = caller'.movesLeft + 1 := by
  unfold next at h
  split at h
  · cases h
    simp only [movesLeft, movesFor, if_true]
    omega
  · cases h
    simp only [movesLeft, if_true]
    omega
  · cases h
    simp only [movesLeft, if_true]
    omega
  · cases h
    simp only [movesLeft]
    omega
  · cases h
    simp only [movesLeft, movesFor, Bool.false_eq_true, if_false]
    omega
  · cases h
    simp only [movesLeft, Bool.false_eq_true, if_false]
    omega
  · cases h

/-- A thread with calls left has a next move, and it waits for the lock only outside a scope. -/
theorem exists_next (caller : Caller γ) :
    caller = .outside [] ∨ ∃ m caller', caller.next m = some caller' ∧
      (m = .acquire → caller.holds = false) := by
  cases caller with
  | outside calls =>
      cases calls with
      | nil => exact Or.inl rfl
      | cons access rest =>
          obtain ⟨call, locked⟩ := access
          cases locked with
          | true => exact Or.inr ⟨.acquire, .acquired call rest, rfl, fun _ => rfl⟩
          | false => exact Or.inr ⟨.enter, .inside ⟨call, false⟩ rest, rfl, fun _ => rfl⟩
  | acquired call rest => exact Or.inr ⟨.enter, .inside ⟨call, true⟩ rest, rfl, Move.noConfusion⟩
  | inside access rest =>
      obtain ⟨call, locked⟩ := access
      cases locked with
      | true => exact Or.inr ⟨.leave, .left rest, rfl, Move.noConfusion⟩
      | false => exact Or.inr ⟨.leave, .outside rest, rfl, Move.noConfusion⟩
  | left rest => exact Or.inr ⟨.release, .outside rest, rfl, Move.noConfusion⟩

/-- How many moves the thread has yet to make in a scope that has the lock. -/
def scopeLeft : Caller γ → Nat
  | .outside _ => 0
  | .acquired _ _ => 3
  | .inside access _ => if access.locked then 2 else 0
  | .left _ => 1

theorem scopeLeft_le (caller : Caller γ) : caller.scopeLeft ≤ 3 := by
  cases caller with
  | outside calls => exact Nat.zero_le 3
  | acquired call rest => exact Nat.le_refl 3
  | inside access rest =>
      simp only [scopeLeft]
      split <;> omega
  | left rest => show 1 ≤ 3; omega

/-- A thread that has the lock moves on to the end of its scope, or gives the lock back. -/
theorem exists_next_of_holds (h : caller.holds = true) :
    ∃ m caller', caller.next m = some caller' ∧ m ≠ .acquire ∧
      caller.scopeLeft = caller'.scopeLeft + 1 ∧ (m = .release → caller'.scopeLeft = 0) := by
  cases caller with
  | outside calls => cases h
  | acquired call rest =>
      exact ⟨.enter, .inside ⟨call, true⟩ rest, rfl, Move.noConfusion, rfl, Move.noConfusion⟩
  | inside access rest =>
      obtain ⟨call, locked⟩ := access
      obtain rfl : locked = true := h
      exact ⟨.leave, .left rest, rfl, Move.noConfusion, rfl, Move.noConfusion⟩
  | left rest => exact ⟨.release, .outside rest, rfl, Move.noConfusion, rfl, fun _ => rfl⟩

theorem movesLeft_pos_of_next (h : caller.next m = some caller') : 0 < caller.movesLeft := by
  rw [movesLeft_next h]
  exact Nat.succ_pos _

end Caller

namespace Callers

variable [DecidableEq ι]

/-- A move of a thread as an event. -/
def moveStep (s : Callers ι γ) (e : ι × Move) : Option (Callers ι γ) := s.move e.1 e.2

/-- The lock's owner is the thread that holds it. -/
def LockKept (s : Callers ι γ) : Prop :=
  ∀ thread, s.owner = some thread ↔ (s.callers thread).holds = true

section Moves

variable {s t : Callers ι γ} {thread other : ι} {m : Move} {caller : Caller γ}

omit [DecidableEq ι] in
theorem LockKept.ownerHolds (h : s.LockKept) : s.OwnerHolds := fun thread => (h thread).2

/-- The lock's owner after a move. -/
def ownerAfter (thread : ι) (m : Move) (owner : Option ι) : Option ι :=
  match m with
  | .acquire => some thread
  | .enter => owner
  | .leave => owner
  | .release => none

/-- A move that does not wait for the lock. -/
theorem move_of_next (hnext : (s.callers thread).next m = some caller)
    (hfree : m = .acquire → s.owner = none) :
    s.move thread m = some (s.set thread (ownerAfter thread m s.owner) caller) := by
  cases m with
  | acquire => simp only [move, hfree rfl, hnext, Option.map_some, ownerAfter]
  | enter => simp only [move, hnext, Option.map_some, ownerAfter]
  | leave => simp only [move, hnext, Option.map_some, ownerAfter]
  | release => simp only [move, hnext, Option.map_some, ownerAfter]

/-- What a move does. -/
theorem move_cases (h : s.move thread m = some t) :
    (m = .acquire → s.owner = none) ∧ ∃ caller, (s.callers thread).next m = some caller ∧
      t = s.set thread (ownerAfter thread m s.owner) caller := by
  have hfree : m = .acquire → s.owner = none := by
    rintro rfl
    cases howner : s.owner with
    | none => rfl
    | some other =>
        simp only [move, howner] at h
        cases h
  obtain ⟨owner, caller, hnext, -⟩ := move_eq_some h
  rw [move_of_next hnext hfree] at h
  exact ⟨hfree, caller, hnext, (Option.some.inj h).symm⟩

theorem LockKept.begin (h : s.LockKept) {calls : List (Access γ)}
    (ht : s.begin thread calls = some t) : t.LockKept := by
  rw [Callers.begin] at ht
  split at ht
  · next hcaller =>
      cases ht
      intro other
      by_cases hsame : other = thread
      · subst hsame
        have hkept := h other
        rw [hcaller] at hkept
        rw [set_self]
        exact hkept
      · rw [set_of_ne hsame]
        exact h other
  · cases ht

/-- Every move keeps the lock with the thread that holds it. -/
theorem LockKept.move (h : s.LockKept) (ht : s.move thread m = some t) : t.LockKept := by
  intro other
  refine ⟨?_, ownerHolds_move h.ownerHolds ht other⟩
  obtain ⟨hfree, caller, hnext, rfl⟩ := move_cases ht
  intro howner
  have howner : ownerAfter thread m s.owner = some other := howner
  cases m with
  | acquire =>
      obtain rfl : thread = other := Option.some.inj howner
      rw [set_self, Caller.holds_next hnext]
      rfl
  | enter =>
      by_cases hsame : other = thread
      · subst hsame
        rw [set_self, Caller.holds_next hnext]
        exact (h other).1 howner
      · rw [set_of_ne hsame]
        exact (h other).1 howner
  | leave =>
      by_cases hsame : other = thread
      · subst hsame
        rw [set_self, Caller.holds_next hnext]
        exact (h other).1 howner
      · rw [set_of_ne hsame]
        exact (h other).1 howner
  | release => cases howner

end Moves

/-! ## One thread alone -/

/-- The moves of one thread. -/
abbrev solo (thread : ι) (s : Callers ι γ) (m : Move) : Option (Callers ι γ) := s.move thread m

section Solo

variable {s t : Callers ι γ} {thread : ι} {moves : List Move}

theorem LockKept.solo (h : s.LockKept) (hrun : Run (solo thread) s moves t) : t.LockKept :=
  hrun.invariant h fun _ _ _ hkept ht => hkept.move ht

/-- Nobody else is moved. -/
theorem solo_others (hrun : Run (solo thread) s moves t) {other : ι} (hne : other ≠ thread) :
    t.callers other = s.callers other := by
  apply hrun.invariant (I := fun u => u.callers other = s.callers other) rfl
  intro u m v hu hv
  obtain ⟨-, caller, -, rfl⟩ := move_cases hv
  rw [set_of_ne hne]
  exact hu

/-- The moves of a thread as events. -/
theorem solo_moveStep (hrun : Run (solo thread) s moves t) :
    Run moveStep s (moves.map fun m => (thread, m)) t :=
  hrun.rename fun _ _ _ hmove => hmove

/-- A first move, and the thread's moves after it. -/
theorem solo_cons {u : Callers ι γ} {m : Move} (hmove : s.move thread m = some u)
    (hrun : Run (solo thread) u moves t) : Run (solo thread) s (m :: moves) t := by
  have hfirst : Run (solo thread) s [m] u := .snoc .nil hmove
  exact hfirst.append hrun

/-- The thread that has the lock gives it back after at most three moves. -/
theorem LockKept.releases (h : s.LockKept) (howner : s.owner = some thread) :
    ∃ moves t, Run (Callers.solo thread) s moves t ∧ t.owner = none ∧ moves.length ≤ 3 := by
  suffices hfree : ∃ moves t, Run (Callers.solo thread) s moves t ∧ t.owner = none ∧
      moves.length = (s.callers thread).scopeLeft by
    obtain ⟨moves, t, hrun, hfree, hlength⟩ := hfree
    refine ⟨moves, t, hrun, hfree, ?_⟩
    rw [hlength]
    exact (s.callers thread).scopeLeft_le
  -- by induction on what is left of the scope
  generalize hleft : (s.callers thread).scopeLeft = left
  induction left generalizing s with
  | zero =>
      obtain ⟨m, caller, -, -, hscope, -⟩ := Caller.exists_next_of_holds ((h thread).1 howner)
      rw [hscope] at hleft
      cases hleft
  | succ left ih =>
      obtain ⟨m, caller, hnext, hm, hscope, hout⟩ :=
        Caller.exists_next_of_holds ((h thread).1 howner)
      have hmove := move_of_next hnext fun hacquire => absurd hacquire hm
      by_cases hrelease : m = .release
      · -- the lock is free, and the thread outside
        subst hrelease
        refine ⟨[.release], _, solo_cons hmove .nil, rfl, ?_⟩
        rw [← hleft, hscope, hout rfl]
        rfl
      · have howner' : ownerAfter thread m s.owner = some thread := by
          cases m with
          | acquire => rfl
          | enter => exact howner
          | leave => exact howner
          | release => exact absurd rfl hrelease
        have hless : ((s.set thread (ownerAfter thread m s.owner) caller).callers
            thread).scopeLeft = left := by
          rw [set_self]
          omega
        obtain ⟨moves, t, hrun, hfree, hlength⟩ := ih (h.move hmove) howner' hless
        refine ⟨m :: moves, t, solo_cons hmove hrun, hfree, ?_⟩
        rw [List.length_cons, hlength]

/-- While nobody else has the lock, a thread can make all its calls by itself, and the lock is free
afterwards. -/
theorem LockKept.completes (h : s.LockKept)
    (hmine : ∀ other, s.owner = some other → other = thread) :
    ∃ moves t, Run (Callers.solo thread) s moves t ∧ t.owner = none ∧
      t.callers thread = .outside [] ∧ moves.length = (s.callers thread).movesLeft := by
  -- by induction on the number of moves left
  generalize hleft : (s.callers thread).movesLeft = left
  induction left generalizing s with
  | zero =>
      rcases (s.callers thread).exists_next with hdone | ⟨m, caller, hnext, -⟩
      · refine ⟨[], s, .nil, ?_, hdone, rfl⟩
        cases howner : s.owner with
        | none => rfl
        | some other =>
            have hholds := (h other).1 howner
            rw [hmine other howner, hdone] at hholds
            cases hholds
      · have hpos := Caller.movesLeft_pos_of_next hnext
        omega
  | succ left ih =>
      rcases (s.callers thread).exists_next with hdone | ⟨m, caller, hnext, hwaits⟩
      · rw [hdone] at hleft
        cases hleft
      · -- the next move does not wait: the thread itself would have the lock
        have hfree : m = .acquire → s.owner = none := by
          intro hm
          cases howner : s.owner with
          | none => rfl
          | some other =>
              have hholds := (h other).1 howner
              rw [hmine other howner, hwaits hm] at hholds
              cases hholds
        have hmove := move_of_next hnext hfree
        have hmine' : ∀ other, ownerAfter thread m s.owner = some other → other = thread := by
          intro other howner
          cases m with
          | acquire => exact (Option.some.inj howner).symm
          | enter => exact hmine other howner
          | leave => exact hmine other howner
          | release => cases howner
        have hfewer : ((s.set thread (ownerAfter thread m s.owner) caller).callers
            thread).movesLeft = left := by
          rw [Caller.movesLeft_next hnext] at hleft
          rw [set_self]
          exact Nat.succ.inj hleft
        obtain ⟨moves, t, hrun, howner, hdone, hlength⟩ := ih (h.move hmove) hmine' hfewer
        refine ⟨m :: moves, t, solo_cons hmove hrun, howner, hdone, ?_⟩
        rw [List.length_cons, hlength]

end Solo

/-! ## Coming to rest -/

/-- How many moves the threads have yet to make. -/
def movesLeftOf (s : Callers ι γ) : List ι → Nat
  | [] => 0
  | thread :: rest => (s.callers thread).movesLeft + s.movesLeftOf rest

section Rest

variable {s t : Callers ι γ} {thread : ι}

/-- No thread has more to do after a thread's moves. -/
theorem movesLeft_le_of_solo {moves : List Move} (hrun : Run (solo thread) s moves t) (other : ι) :
    (t.callers other).movesLeft ≤ (s.callers other).movesLeft := by
  apply hrun.invariant (I := fun u => (u.callers other).movesLeft ≤ (s.callers other).movesLeft)
  · exact Nat.le_refl _
  · intro u m v hu hv
    obtain ⟨-, caller, hnext, rfl⟩ := move_cases hv
    by_cases hsame : other = thread
    · subst hsame
      rw [Caller.movesLeft_next hnext] at hu
      rw [set_self]
      omega
    · rw [set_of_ne hsame]
      exact hu

omit [DecidableEq ι] in
theorem movesLeftOf_le (hle : ∀ other, (t.callers other).movesLeft ≤ (s.callers other).movesLeft)
    (threads : List ι) : t.movesLeftOf threads ≤ s.movesLeftOf threads := by
  induction threads with
  | nil => exact Nat.le_refl _
  | cons thread rest ih => exact Nat.add_le_add (hle thread) ih

/-- With the lock free, threads make their calls one after the other. -/
theorem LockKept.threads_complete (h : s.LockKept) (hfree : s.owner = none) (threads : List ι) :
    ∃ moves t, Run moveStep s moves t ∧ t.owner = none ∧
      (∀ thread ∈ threads, t.callers thread = .outside []) ∧
      moves.length ≤ s.movesLeftOf threads ∧ (∀ e ∈ moves, e.1 ∈ threads) ∧
      ∀ other, s.callers other = .outside [] ∨ other ∉ threads →
        t.callers other = s.callers other := by
  induction threads generalizing s with
  | nil =>
      exact ⟨[], s, .nil, hfree, fun _ hmem => absurd hmem List.not_mem_nil, Nat.le_refl _,
        fun _ hmem => absurd hmem List.not_mem_nil, fun _ _ => rfl⟩
  | cons thread rest ih =>
      have hmine : ∀ other, s.owner = some other → other = thread := by
        intro other howner
        rw [hfree] at howner
        cases howner
      obtain ⟨first, u, hsolo, hufree, hudone, hulength⟩ := h.completes hmine
      obtain ⟨moves, t, hrun, htfree, htdone, htlength, hmoves, hothers⟩ := ih (h.solo hsolo) hufree
      refine ⟨first.map (fun m => (thread, m)) ++ moves, t, (solo_moveStep hsolo).append hrun, htfree,
        ?_, ?_, ?_, ?_⟩
      · intro other hmem
        rcases List.mem_cons.1 hmem with rfl | hmem
        · rw [hothers other (Or.inl hudone), hudone]
        · exact htdone other hmem
      · have hrest := movesLeftOf_le (movesLeft_le_of_solo hsolo) rest
        rw [List.length_append, List.length_map, hulength]
        show _ ≤ (s.callers thread).movesLeft + s.movesLeftOf rest
        omega
      · intro e he
        rcases List.mem_append.1 he with he | he
        · obtain ⟨m, -, rfl⟩ := List.mem_map.1 he
          exact List.mem_cons_self
        · exact List.mem_cons_of_mem _ (hmoves e he)
      · intro other hother
        by_cases hsame : other = thread
        · subst hsame
          rw [hothers other (Or.inl hudone), hudone]
          rcases hother with hrest | hnot
          · exact hrest.symm
          · exact absurd List.mem_cons_self hnot
        · have hu := solo_others hsolo hsame
          rw [hothers other, hu]
          rw [hu]
          exact hother.imp id fun hnot hmem => hnot (List.mem_cons_of_mem _ hmem)

/-- **No deadlock.** The lock's owner leaves its scope, after at most three moves, and then the
threads make their calls. Nobody else is moved. -/
theorem LockKept.comes_to_rest (h : s.LockKept) (threads : List ι) :
    ∃ moves t, Run moveStep s moves t ∧ t.owner = none ∧
      (∀ thread ∈ threads, t.callers thread = .outside []) ∧
      moves.length ≤ s.movesLeftOf threads + 3 ∧
      (∀ e ∈ moves, e.1 ∈ threads ∨ s.owner = some e.1) ∧
      ∀ other, other ∉ threads → s.owner ≠ some other → t.callers other = s.callers other := by
  cases howner : s.owner with
  | none =>
      obtain ⟨moves, t, hrun, hfree, hdone, hlength, hmoves, hothers⟩ :=
        h.threads_complete howner threads
      exact ⟨moves, t, hrun, hfree, hdone, Nat.le_add_right_of_le hlength,
        fun e he => Or.inl (hmoves e he), fun other hnot _ => hothers other (Or.inr hnot)⟩
  | some owner =>
      obtain ⟨first, u, hsolo, hufree, hfirst⟩ := h.releases howner
      obtain ⟨moves, t, hrun, hfree, hdone, hlength, hmoves, hothers⟩ :=
        (h.solo hsolo).threads_complete hufree threads
      refine ⟨first.map (fun m => (owner, m)) ++ moves, t, (solo_moveStep hsolo).append hrun, hfree,
        hdone, ?_, ?_, ?_⟩
      · have hrest := movesLeftOf_le (movesLeft_le_of_solo hsolo) threads
        rw [List.length_append, List.length_map]
        omega
      · intro e he
        rcases List.mem_append.1 he with he | he
        · obtain ⟨m, -, rfl⟩ := List.mem_map.1 he
          exact Or.inr rfl
        · exact Or.inl (hmoves e he)
      · intro other hnot howns
        rw [hothers other (Or.inr hnot)]
        apply solo_others hsolo
        rintro rfl
        exact howns rfl

end Rest

end Callers

end ArmFaceID.Library
