import ArmFaceID.Library.LockedCalls
import ArmFaceID.Library.Machine
import ArmFaceID.Server.Engine
import Mathlib.Data.List.TakeWhile

/-!
# Who is inside the engine

`RecognizeFaceFromDb` takes `mutex_` around each `Compare`. `RegisterFace(frame)` and
`RegisterFeature` call into the engine without it. So two `Compare`s never overlap, and the engine
is used by one thread at a time exactly in the runs where the calls of the two registrations happen
to overlap nothing (`one_thread_inside_iff`).
-/

set_option autoImplicit false

namespace ArmFaceID.Server

open ArmFaceID.Library

/-- The calls on `face_engine_` and on its members `FR` and `PD`. -/
inductive EngineCall where
  | compare
  | query
  | register
  | detectFaces
  | getExtractFeatureSize
  | number
  | mark
  | extract
  | calculateSimilarity
  deriving DecidableEq

/-- The worker, the register thread, and the gRPC handlers. -/
inductive EngineThread where
  | worker
  | register
  | handler (n : Nat)
  deriving DecidableEq

variable {Mat QImage : Type} (V : Vision Mat QImage) (observers : List Observer)

/-- An operation that calls into the engine, with the data that decide which calls it makes. -/
inductive EngineOperation where
  | recognizeFaceFromDb (users : List User) (img : Mat)
  | registerFace (gallery : V.Gallery) (frame : Mat)
  | registerFeature (lastFeatures : List ℚ) (img : Mat)

/-- The users whose images are compared: those before the first that is not decoded. -/
def comparedUsers (users : List User) (img : Mat) : List User :=
  users.takeWhile fun iter => (compareUser V img iter).isOk

namespace EngineOperation

variable {V}

/-- The calls of an operation in order. Only the loop of `RecognizeFaceFromDb` takes `mutex_`. -/
def calls : EngineOperation V → List (Access EngineCall)
  | .recognizeFaceFromDb users img => (comparedUsers V users img).map fun _ => ⟨.compare, true⟩
  | .registerFace gallery frame =>
      match registerFaceQuery V observers gallery frame with
      | some _ => [⟨.query, false⟩]
      | none => [⟨.query, false⟩, ⟨.register, false⟩]
  | .registerFeature lastFeatures img =>
      match V.detectFaces img with
      | [] => [⟨.detectFaces, false⟩]
      | _ :: _ =>
          -- the last features are compared with only if there are any
          [⟨.detectFaces, false⟩, ⟨.getExtractFeatureSize, false⟩, ⟨.number, false⟩, ⟨.mark, false⟩,
            ⟨.extract, false⟩] ++
            if lastFeatures.length > 0 then [⟨.calculateSimilarity, false⟩] else []

/-- Which thread runs which operation. -/
def runsOn : EngineOperation V → EngineThread → Bool
  | .recognizeFaceFromDb _ _, .worker => true
  | .registerFeature _ _, .register => true
  -- the handlers of `RecognizeFace` and of `Register`
  | .recognizeFaceFromDb _ _, .handler _ => true
  | .registerFace _ _, .handler _ => true
  | _, _ => false

end EngineOperation

/-- A thread starts an operation, or makes its next move in the one under way. -/
inductive EngineEvent where
  | operation (thread : EngineThread) (op : EngineOperation V)
  | move (thread : EngineThread) (m : Move)

/-- One step. -/
def engineStep (s : Callers EngineThread EngineCall) :
    EngineEvent V → Option (Callers EngineThread EngineCall)
  | .operation thread op =>
      if op.runsOn thread then s.begin thread (op.calls observers) else none
  | .move thread m => s.move thread m

/-- A recognition that ends normally compares every cached user. -/
theorem comparedUsers_eq {users : List User} {img : Mat} {r : Recognition Mat}
    (h : recognizeFaceFromDb V observers users img = .ok r) :
    comparedUsers V users img = users := by
  obtain ⟨top, hloop, -⟩ := bind_eq_ok h
  obtain ⟨scored, hscored, -⟩ := recognizeLoop_eq_ok hloop
  -- every user was scored, so every image was decoded
  apply List.takeWhile_eq_self_iff.2
  intro u hu
  obtain ⟨similarity, hok, -⟩ := scored_of_mem hscored hu
  rw [hok]
  rfl

/-- A call is entered only if it and every call under way are made with `mutex_` held. -/
def UnderMutex (s : Callers EngineThread EngineCall) : EngineEvent V → Prop
  | .move thread .enter => s.Protected thread
  | _ => True

section Step

variable {V observers} {s t : Callers EngineThread EngineCall} {e : EngineEvent V}

theorem ownerHolds_engineStep (hinv : s.OwnerHolds) (ht : engineStep V observers s e = some t) :
    t.OwnerHolds := by
  cases e with
  | operation thread op =>
      simp only [engineStep] at ht
      split at ht
      · exact Callers.ownerHolds_begin hinv ht
      · cases ht
  | move thread m => exact Callers.ownerHolds_move hinv ht

theorem exclusive_engineStep (howner : s.OwnerHolds) (hinv : s.Exclusive)
    (hguard : UnderMutex V s e) (ht : engineStep V observers s e = some t) : t.Exclusive := by
  cases e with
  | operation thread op =>
      simp only [engineStep] at ht
      split at ht
      · exact Callers.exclusive_begin hinv ht
      · cases ht
  | move thread m =>
      apply Callers.exclusive_move howner hinv _ ht
      rintro rfl
      exact hguard

theorem not_exclusive_of_not_underMutex (hguard : ¬ UnderMutex V s e)
    (ht : engineStep V observers s e = some t) : ¬ t.Exclusive := by
  cases e with
  | operation thread op => exact absurd trivial hguard
  | move thread m =>
      cases m with
      | enter => exact Callers.not_exclusive_of_not_protected hguard ht
      | acquire => exact absurd trivial hguard
      | leave => exact absurd trivial hguard
      | release => exact absurd trivial hguard

end Step

/-- Two calls made with `mutex_` held never overlap. -/
theorem locked_calls_apart {es : List (EngineEvent V)} {s : Callers EngineThread EngineCall}
    (h : Run (engineStep V observers) {} es s) {i j : EngineThread}
    (hi : (s.callers i).holds = true) (hj : (s.callers j).holds = true) : i = j := by
  have howner : s.OwnerHolds := by
    apply h.invariant
    · intro thread hthread
      cases hthread
    · intro s e t hinv ht
      exact ownerHolds_engineStep hinv ht
  exact howner.unique hi hj

/-- **One thread inside the engine.** In a run of the worker, the register thread and the handlers,
there is never more than one thread inside a call on the engine if and only if no thread enters a
call while another is inside one, unless both hold `mutex_`. -/
theorem one_thread_inside_iff {es : List (EngineEvent V)} {s : Callers EngineThread EngineCall}
    (h : Run (engineStep V observers) {} es s) :
    Always (engineStep V observers) Callers.Exclusive {} es ↔
      GuardedRun (engineStep V observers) (UnderMutex V) {} es s := by
  -- exclusion is kept with the help of the lock's owner, which every step keeps
  apply h.always_iff_guarded (I := fun s => s.OwnerHolds ∧ s.Exclusive)
  · exact ⟨(fun _ h => nomatch h), (fun _ _ h => nomatch h)⟩
  · intro s hs
    exact hs.2
  · intro s e t hs hguard ht
    exact ⟨ownerHolds_engineStep hs.1 ht, exclusive_engineStep hs.1 hs.2 hguard ht⟩
  · intro s e t _ hguard ht
    exact not_exclusive_of_not_underMutex hguard ht

/-- The cached users of the runs below. -/
def annOnly : List User := [{ id := 1, nickName := "Ann", faceImgBytes := [2] }]

/-- The worker compares, and a handler of `Register` asks the engine once the worker has left it. -/
def compareThenQuery : List (EngineEvent sampleVision) :=
  [.operation .worker (.recognizeFaceFromDb annOnly 2), .move .worker .acquire,
    .move .worker .enter, .operation (.handler 0) (.registerFace [] 2), .move .worker .leave,
    .move (.handler 0) .enter]

theorem one_thread_inside_in_turn :
    ∃ s, Run (engineStep sampleVision [7]) {} compareThenQuery s ∧
      Always (engineStep sampleVision [7]) Callers.Exclusive {} compareThenQuery := by
  have hrun : GuardedRun (engineStep sampleVision [7]) (UnderMutex sampleVision) {} compareThenQuery _ :=
    .snoc (.snoc (.snoc (.snoc (.snoc (.snoc .nil trivial rfl) trivial rfl)
      (by
        intro other hother
        cases other with
        | worker => cases hother
        | register => cases hother
        | handler n => cases hother) rfl)
      trivial rfl) trivial rfl)
      (by
        intro other hother
        cases other with
        | worker => cases hother
        | register => cases hother
        | handler n => cases n <;> cases hother) rfl
  exact ⟨_, hrun.run, (one_thread_inside_iff _ _ hrun.run).2 hrun⟩

/-- Two handlers of `Register` are inside `Query` at once, and the register thread enters
`DetectFaces` while the worker is inside `Compare` with `mutex_` held. -/
theorem not_one_thread_inside :
    (∃ s, Run (engineStep sampleVision [7]) {}
        [.operation (.handler 0) (.registerFace [] 2), .operation (.handler 1) (.registerFace [] 2),
          .move (.handler 0) .enter, .move (.handler 1) .enter] s ∧ ¬ s.Exclusive) ∧
    ∃ s, Run (engineStep sampleVision [7]) {}
        [.operation .worker (.recognizeFaceFromDb annOnly 2),
          .operation .register (.registerFeature [] 2), .move .worker .acquire,
          .move .worker .enter, .move .register .enter] s ∧
      s.owner = some .worker ∧ ¬ s.Exclusive := by
  refine ⟨⟨_, .snoc (.snoc (.snoc (.snoc .nil rfl) rfl) rfl) rfl, ?_⟩,
    ⟨_, .snoc (.snoc (.snoc (.snoc (.snoc .nil rfl) rfl) rfl) rfl) rfl, rfl, ?_⟩⟩
  · intro hexclusive
    cases hexclusive (.handler 0) (.handler 1) rfl rfl
  · intro hexclusive
    cases hexclusive .worker .register rfl rfl

end ArmFaceID.Server
