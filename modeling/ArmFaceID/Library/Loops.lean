import Mathlib.Data.List.Basic

/-!
# Threads that loop until they see a flag

A thread launched on a loop `while (...) body` is at its test, in its body, or has left for good.
`live` counts the threads that have not left. Launching adds one, a test that leaves takes one away,
and every other step keeps the number.
-/

set_option autoImplicit false

namespace ArmFaceID.Library

universe u

variable {σ : Type u}

/-- Where a thread is in its loop, with its local variables. -/
inductive Loop (σ : Type u) where
  | testing (vars : σ)
  | working (vars : σ)
  | exited

/-- The thread has not left its loop. -/
def Loop.isLive : Loop σ → Bool
  | .exited => false
  | _ => true

/-- The number of threads that have not left. -/
def live (loops : List (Loop σ)) : Nat := loops.countP Loop.isLive

/-- One more thread, before its first test. -/
def launch (loops : List (Loop σ)) (vars : σ) : List (Loop σ) := loops ++ [.testing vars]

/-- Thread `i` tests whether to leave. -/
def testLoop (leave : Bool) (loops : List (Loop σ)) (i : Nat) : Option (List (Loop σ)) :=
  match loops[i]? with
  | some (.testing vars) => some (loops.set i (if leave then .exited else .working vars))
  | _ => none

/-- Thread `i` runs its body, which may be undefined, and goes back to the test. -/
def workLoop (body : σ → Option σ) (loops : List (Loop σ)) (i : Nat) : Option (List (Loop σ)) :=
  match loops[i]? with
  | some (.working vars) => (body vars).map fun vars => loops.set i (.testing vars)
  | _ => none

@[simp] theorem live_launch (loops : List (Loop σ)) (vars : σ) :
    live (launch loops vars) = live loops + 1 := by
  rw [live, launch, List.countP_append]
  rfl

section Steps

variable {loops loops' : List (Loop σ)} {i : Nat} {old : Loop σ}

/-- A live thread that goes on. -/
theorem live_set_of_live (hi : loops[i]? = some old) (hold : old.isLive = true) {new : Loop σ}
    (hnew : new.isLive = true) : live (loops.set i new) = live loops := by
  obtain ⟨hlt, hget⟩ := List.getElem?_eq_some_iff.1 hi
  have hpos : 0 < loops.countP Loop.isLive :=
    List.countP_pos_iff.2 ⟨old, List.mem_of_getElem? hi, hold⟩
  rw [live, live, List.countP_set hlt, hget, if_pos hold, if_pos hnew]
  omega

/-- A live thread that leaves. -/
theorem live_set_exited (hi : loops[i]? = some old) (hold : old.isLive = true) :
    live (loops.set i .exited) + 1 = live loops := by
  obtain ⟨hlt, hget⟩ := List.getElem?_eq_some_iff.1 hi
  have hpos : 0 < loops.countP Loop.isLive :=
    List.countP_pos_iff.2 ⟨old, List.mem_of_getElem? hi, hold⟩
  have hgone : ¬ (Loop.exited : Loop σ).isLive = true := Bool.false_ne_true
  rw [live, live, List.countP_set hlt, hget, if_pos hold, if_neg hgone]
  omega

theorem live_testLoop_stay (h : testLoop false loops i = some loops') :
    live loops' = live loops := by
  rw [testLoop] at h
  split at h
  · next vars hi =>
      cases h
      exact live_set_of_live hi rfl rfl
  · cases h

theorem live_testLoop_leave (h : testLoop true loops i = some loops') :
    live loops' + 1 = live loops := by
  rw [testLoop] at h
  split at h
  · next vars hi =>
      cases h
      exact live_set_exited hi rfl
  · cases h

theorem live_workLoop {body : σ → Option σ} (h : workLoop body loops i = some loops') :
    live loops' = live loops := by
  rw [workLoop] at h
  split at h
  · next vars hi =>
      obtain ⟨vars', -, rfl⟩ := Option.map_eq_some_iff.1 h
      exact live_set_of_live hi rfl rfl
  · cases h

end Steps

/-! ## The variables of the threads -/

/-- The local variables, as long as the thread has not left. -/
def Loop.vars : Loop σ → Option σ
  | .testing vars => some vars
  | .working vars => some vars
  | .exited => none

/-- The local variables of thread `i`. -/
def varsAt (loops : List (Loop σ)) (i : Nat) : Option σ := loops[i]?.bind Loop.vars

theorem Loop.vars_isSome (loop : Loop σ) : loop.vars.isSome = loop.isLive := by
  cases loop <;> rfl

section Vars

variable {loops loops' : List (Loop σ)} {i j : Nat} {vars : σ}

theorem lt_length_of_varsAt (h : varsAt loops i = some vars) : i < loops.length := by
  obtain ⟨loop, hloop, -⟩ := Option.bind_eq_some_iff.1 h
  exact (List.getElem?_eq_some_iff.1 hloop).1

theorem varsAt_launch_last (loops : List (Loop σ)) (vars : σ) :
    varsAt (launch loops vars) loops.length = some vars := by
  simp [varsAt, launch, Loop.vars]

theorem varsAt_launch_ne (h : j ≠ loops.length) : varsAt (launch loops vars) j = varsAt loops j := by
  rcases Nat.lt_or_gt_of_ne h with hlt | hgt
  · rw [varsAt, varsAt, launch, List.getElem?_append_left hlt]
  · have hout : loops.length ≤ j := Nat.le_of_lt hgt
    rw [varsAt, varsAt, launch, List.getElem?_eq_none hout, List.getElem?_eq_none]
    simp only [List.length_append, List.length_singleton]
    omega

theorem varsAt_set_self (h : i < loops.length) (new : Loop σ) :
    varsAt (loops.set i new) i = new.vars := by
  rw [varsAt, List.getElem?_set_self h]
  rfl

theorem varsAt_set_ne (h : i ≠ j) (new : Loop σ) : varsAt (loops.set i new) j = varsAt loops j := by
  rw [varsAt, varsAt, List.getElem?_set_ne h]

/-- With no live thread nobody has variables. -/
theorem varsAt_eq_none_of_live (h : live loops = 0) (i : Nat) : varsAt loops i = none := by
  rw [live, List.countP_eq_zero] at h
  cases hvars : varsAt loops i with
  | none => rfl
  | some vars =>
      obtain ⟨loop, hloop, hsome⟩ := Option.bind_eq_some_iff.1 hvars
      have hlive : loop.isLive = true := by
        rw [← loop.vars_isSome, hsome]
        rfl
      exact absurd hlive (h loop (List.mem_of_getElem? hloop))

/-- A test changes nobody's variables; the thread that leaves has none any more. -/
theorem varsAt_testLoop {leave : Bool} (h : testLoop leave loops i = some loops') :
    loops'.length = loops.length ∧
      ∀ j vars, varsAt loops' j = some vars → varsAt loops j = some vars := by
  rw [testLoop] at h
  split at h
  · next old hi =>
      cases h
      obtain ⟨hlt, -⟩ := List.getElem?_eq_some_iff.1 hi
      refine ⟨List.length_set, ?_⟩
      intro j vars hj
      by_cases hij : i = j
      · subst hij
        rw [varsAt_set_self hlt] at hj
        cases leave with
        | true => cases hj
        | false =>
            cases hj
            rw [varsAt, hi]
            rfl
      · rwa [varsAt_set_ne hij] at hj
  · cases h

/-- A body changes the variables of its own thread only. -/
theorem varsAt_workLoop {body : σ → Option σ} (h : workLoop body loops i = some loops') :
    ∃ old new, varsAt loops i = some old ∧ body old = some new ∧ loops'.length = loops.length ∧
      varsAt loops' i = some new ∧ ∀ j, j ≠ i → varsAt loops' j = varsAt loops j := by
  rw [workLoop] at h
  split at h
  · next old hi =>
      obtain ⟨new, hbody, rfl⟩ := Option.map_eq_some_iff.1 h
      obtain ⟨hlt, -⟩ := List.getElem?_eq_some_iff.1 hi
      refine ⟨old, new, ?_, hbody, List.length_set, varsAt_set_self hlt _, ?_⟩
      · rw [varsAt, hi]
        rfl
      · intro j hj
        exact varsAt_set_ne (Ne.symm hj) _
  · cases h

end Vars

end ArmFaceID.Library
