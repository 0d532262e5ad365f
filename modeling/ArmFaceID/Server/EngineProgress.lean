import ArmFaceID.Library.LockProgress
import ArmFaceID.Server.EngineCalls

/-!
# Nobody waits for the engine for ever

`RecognizeFaceFromDb` gives `mutex_` back after each `Compare`, no scope asks for it twice, and the
two registrations do without it. So whatever the worker, the register thread and the handlers are in
the middle of, any of them can finish their operations: the thread that has `mutex_` leaves its scope
in three moves, and then they need nobody else (`engine_operations_complete`).
-/

set_option autoImplicit false

namespace ArmFaceID.Server

open ArmFaceID.Library

variable {Mat QImage : Type} {V : Vision Mat QImage} {observers : List Observer}

/-- `mutex_` is locked exactly while a thread is in a scope that holds it. -/
theorem lockKept_engineRun {es : List (EngineEvent V)} {s : Callers EngineThread EngineCall}
    (h : Run (engineStep V observers) {} es s) : s.LockKept := by
  apply h.invariant
  · intro thread
    exact iff_of_false (fun howner => by cases howner) (fun hholds => by cases hholds)
  · intro s e t hkept ht
    cases e with
    | operation thread op =>
        simp only [engineStep] at ht
        split at ht
        · exact hkept.begin ht
        · cases ht
    | move thread m => exact hkept.move ht

/-- **Progress.** From every state of every run any threads can finish their operations. Until
then they, and the thread that has `mutex_`, are the only ones to move: it at most three times, they
once for each move they have left. `mutex_` is free afterwards. -/
theorem engine_operations_complete {es : List (EngineEvent V)}
    {s : Callers EngineThread EngineCall} (h : Run (engineStep V observers) {} es s)
    (threads : List EngineThread) :
    ∃ (moves : List (EngineThread × Move)) (t : Callers EngineThread EngineCall),
      Run (engineStep V observers) s (moves.map fun e => .move e.1 e.2) t ∧ t.owner = none ∧
        (∀ thread ∈ threads, t.callers thread = .outside []) ∧
        moves.length ≤ s.movesLeftOf threads + 3 ∧
        (∀ e ∈ moves, e.1 ∈ threads ∨ s.owner = some e.1) ∧
        ∀ other, other ∉ threads → s.owner ≠ some other → t.callers other = s.callers other := by
  obtain ⟨moves, t, hrun, hrest⟩ := (lockKept_engineRun h).comes_to_rest threads
  exact ⟨moves, t, hrun.rename fun _ _ _ hmove => hmove, hrest⟩

/-- The worker is inside a `Compare`, and a handler wants to make one. -/
def handlerWaits : List (EngineEvent sampleVision) :=
  [.operation .worker (.recognizeFaceFromDb annOnly 2),
    .operation (.handler 0) (.recognizeFaceFromDb annOnly 2), .move .worker .acquire,
    .move .worker .enter]

theorem engine_operations_complete_handler :
    ∃ s, Run (engineStep sampleVision [7]) {} handlerWaits s ∧ s.owner = some .worker ∧
      s.move (.handler 0) .acquire = none ∧
      ∃ (moves : List (EngineThread × Move)) (t : Callers EngineThread EngineCall),
        Run (engineStep sampleVision [7]) s (moves.map fun e => .move e.1 e.2) t ∧
          t.callers (.handler 0) = .outside [] ∧ moves.length ≤ 7 := by
  have hrun : Run (engineStep sampleVision [7]) {} handlerWaits _ :=
    .snoc (.snoc (.snoc (.snoc .nil rfl) rfl) rfl) rfl
  obtain ⟨moves, t, hmoves, -, hdone, hlength, -⟩ := engine_operations_complete hrun [.handler 0]
  exact ⟨_, hrun, rfl, rfl, moves, t, hmoves, hdone _ List.mem_cons_self, hlength⟩

end ArmFaceID.Server
