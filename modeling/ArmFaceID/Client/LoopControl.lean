import ArmFaceID.Client.FaceProcessor
import ArmFaceID.Library.Loops
import ArmFaceID.Library.Machine

/-!
# Starting and stopping the client's loop

`FaceProcessor::Start` launches a thread on `Run` and then clears `is_pause_`; `Stop` sets it and
`Continue` clears it, and neither looks at the threads. A thread that sees the flag leaves for good.
So there is one live loop as long as `Start` is called only when none is left and the flag is
cleared only while one is left (`one_loop_iff`).
-/

set_option autoImplicit false

namespace ArmFaceID.Client

open ArmFaceID.Library

universe u

variable {Frame : Type u}

/-- `is_pause_`, the queue, the threads launched on `Run`, and whether a `Start` has launched its
thread and not yet cleared the flag. -/
structure ProcessorThreads (Frame : Type u) where
  isPause : Bool := false
  frameQueue : List Frame := []
  loops : List (Loop (RunState Frame)) := []
  starting : Bool := false

/-- `startLaunch` and `startClear` are the two halves of `Start`; a body comes with what
`detectMultiScale` finds and how the RPC would end. -/
inductive ProcessorEvent (Frame : Type u) where
  | startLaunch
  | startClear
  | callStop
  | callContinue
  | onFrameCaptured (frame : Frame)
  | loopTest (thread : Nat)
  | loopBody (thread : Nat) (faces : List Rect) (reply : RpcReply RecognizeResult)

/-- `Start` up to the launch, and the whole of `Stop` and `Continue`: calls made one after another,
so that none begins while a `Start` is half done. -/
def controlStep (s : ProcessorThreads Frame) (t : ProcessorThreads Frame) :
    Option (ProcessorThreads Frame) :=
  if s.starting then none else some t

/-- One step. -/
def processorStep (imencode : String → Frame → Bytes) (observers : List Observer)
    (s : ProcessorThreads Frame) : ProcessorEvent Frame → Option (ProcessorThreads Frame)
  | .startLaunch => controlStep s { s with loops := launch s.loops {}, starting := true }
  | .startClear => if s.starting then some { s with isPause := false, starting := false } else none
  | .callStop => controlStep s { s with isPause := true }
  | .callContinue => controlStep s { s with isPause := false }
  | .onFrameCaptured frame => some { s with frameQueue := s.frameQueue ++ [frame] }
  | .loopTest thread =>
      (testLoop s.isPause s.loops thread).map fun loops => { s with loops := loops }
  | .loopBody thread faces reply =>
      match s.frameQueue with
      | [] => (workLoop some s.loops thread).map fun loops => { s with loops := loops }
      | frame :: rest =>
          (workLoop (fun vars => runPass imencode observers vars ⟨frame, faces, reply⟩)
            s.loops thread).map fun loops => { s with loops := loops, frameQueue := rest }

/-- The first `Start` has launched its thread; frames may have been captured before. -/
def firstStart (frameQueue : List Frame) : ProcessorThreads Frame where
  frameQueue := frameQueue
  loops := launch [] {}
  starting := true

/-- At most one loop is live, and exactly one whenever the flag is clear between control calls. -/
structure OneLoop (s : ProcessorThreads Frame) : Prop where
  atMostOne : live s.loops ≤ 1
  running : s.isPause = false → s.starting = false → live s.loops = 1

/-- `Start` finds no live loop; a call that clears the flag finds one. -/
def FindsLoop (s : ProcessorThreads Frame) : ProcessorEvent Frame → Prop
  | .startLaunch => live s.loops = 0
  | .startClear => live s.loops ≠ 0
  | .callContinue => live s.loops ≠ 0
  | _ => True

instance (s : ProcessorThreads Frame) (e : ProcessorEvent Frame) : Decidable (FindsLoop s e) :=
  match e with
  | .startLaunch => inferInstanceAs (Decidable (_ = _))
  | .startClear => inferInstanceAs (Decidable (_ ≠ _))
  | .callStop => isTrue trivial
  | .callContinue => inferInstanceAs (Decidable (_ ≠ _))
  | .onFrameCaptured _ => isTrue trivial
  | .loopTest _ => isTrue trivial
  | .loopBody _ _ _ => isTrue trivial

section Step

variable {imencode : String → Frame → Bytes} {observers : List Observer}
  {s t : ProcessorThreads Frame} {e : ProcessorEvent Frame}

theorem controlStep_eq_some {t' : ProcessorThreads Frame} (h : controlStep s t = some t') :
    s.starting = false ∧ t' = t := by
  rw [controlStep] at h
  split at h
  · cases h
  · next hstart => exact ⟨by simpa using hstart, (Option.some.inj h).symm⟩

theorem oneLoop_firstStart (frameQueue : List Frame) : OneLoop (firstStart frameQueue) where
  atMostOne := Nat.le_of_eq (live_launch [] {})
  running _ h := nomatch h

/-- Steps of the threads keep the number of live loops, unless one leaves on seeing the flag. -/
theorem OneLoop.of_live (hinv : OneLoop s) (hpause : t.isPause = s.isPause)
    (hstart : t.starting = s.starting) (hlive : live t.loops = live s.loops) : OneLoop t := by
  refine ⟨?_, ?_⟩
  · rw [hlive]
    exact hinv.atMostOne
  · rw [hpause, hstart, hlive]
    exact hinv.running

theorem oneLoop_step (hinv : OneLoop s) (hfinds : FindsLoop s e)
    (ht : processorStep imencode observers s e = some t) : OneLoop t := by
  have hone := hinv.atMostOne
  cases e with
  | startLaunch =>
      -- the launch is half a `Start`, so the flag says nothing yet
      obtain ⟨-, rfl⟩ := controlStep_eq_some ht
      have hnone : live s.loops = 0 := hfinds
      refine ⟨?_, fun _ h => nomatch h⟩
      show live (launch s.loops {}) ≤ 1
      rw [live_launch]
      omega
  | startClear =>
      simp only [processorStep] at ht
      split at ht
      · cases ht
        -- at most one is left, and the guard says that one is
        have hsome : live s.loops ≠ 0 := hfinds
        exact ⟨hone, fun _ _ => by show live s.loops = 1; omega⟩
      · cases ht
  | callStop =>
      obtain ⟨-, rfl⟩ := controlStep_eq_some ht
      exact ⟨hone, fun h => nomatch h⟩
  | callContinue =>
      obtain ⟨-, rfl⟩ := controlStep_eq_some ht
      have hsome : live s.loops ≠ 0 := hfinds
      exact ⟨hone, fun _ _ => by show live s.loops = 1; omega⟩
  | onFrameCaptured frame =>
      cases ht
      exact hinv.of_live rfl rfl rfl
  | loopTest thread =>
      obtain ⟨loops, hloops, rfl⟩ := Option.map_eq_some_iff.1 ht
      cases hpause : s.isPause with
      | false =>
          rw [hpause] at hloops
          exact hinv.of_live hpause.symm rfl (live_testLoop_stay hloops)
      | true =>
          -- the thread leaves, and the flag stays set
          rw [hpause] at hloops
          have hleft := live_testLoop_leave hloops
          exact ⟨by show live loops ≤ 1; omega, fun h => nomatch h⟩
  | loopBody thread faces reply =>
      simp only [processorStep] at ht
      split at ht
      · obtain ⟨loops, hloops, rfl⟩ := Option.map_eq_some_iff.1 ht
        exact hinv.of_live rfl rfl (live_workLoop hloops)
      · obtain ⟨loops, hloops, rfl⟩ := Option.map_eq_some_iff.1 ht
        exact hinv.of_live rfl rfl (live_workLoop hloops)

/-- A `Start` that finds a live loop makes two, and a flag cleared with none left restarts none. -/
theorem not_oneLoop_of_not_findsLoop (hfinds : ¬ FindsLoop s e)
    (ht : processorStep imencode observers s e = some t) : ¬ OneLoop t := by
  intro hinv
  cases e with
  | startLaunch =>
      obtain ⟨-, rfl⟩ := controlStep_eq_some ht
      have hsome : live s.loops ≠ 0 := hfinds
      -- the new thread makes two with the one that was left
      have hone : live (launch s.loops {}) ≤ 1 := hinv.atMostOne
      rw [live_launch] at hone
      omega
  | startClear =>
      simp only [processorStep] at ht
      split at ht
      · cases ht
        have hnone : live s.loops = 0 := not_not.1 hfinds
        have hrun : live s.loops = 1 := hinv.running rfl rfl
        omega
      · cases ht
  | callContinue =>
      obtain ⟨hstart, rfl⟩ := controlStep_eq_some ht
      have hnone : live s.loops = 0 := not_not.1 hfinds
      have hrun : live s.loops = 1 := hinv.running rfl hstart
      omega
  | _ => exact hfinds trivial

end Step

/-- **One loop at a time.** In a run from the first `Start`, at most one loop is live in every state,
and exactly one whenever the flag is clear between control calls, if and only if every `Start` of
the run finds no live loop and every call that clears the flag finds one. -/
theorem one_loop_iff (imencode : String → Frame → Bytes) (observers : List Observer)
    {frameQueue : List Frame} {es : List (ProcessorEvent Frame)} {s : ProcessorThreads Frame}
    (h : Run (processorStep imencode observers) (firstStart frameQueue) es s) :
    Always (processorStep imencode observers) OneLoop (firstStart frameQueue) es ↔
      GuardedRun (processorStep imencode observers) FindsLoop (firstStart frameQueue) es s :=
  h.always_iff_guarded (oneLoop_firstStart frameQueue) (fun _ hs => hs)
    (fun _ _ _ => oneLoop_step) (fun _ _ _ _ => not_oneLoop_of_not_findsLoop)

/-- The loop goes on through a pause that it does not see. -/
def unseenPause : List (ProcessorEvent Nat) :=
  [.startClear, .loopTest 0, .callStop, .callContinue, .loopBody 0 [] (.error "")]

theorem one_loop_unseen_pause :
    ∃ s, Run (processorStep (fun _ _ => []) [0]) (firstStart [10]) unseenPause s ∧
      Always (processorStep (fun _ _ => []) [0]) OneLoop (firstStart [10]) unseenPause := by
  have hrun : GuardedRun (processorStep (fun _ _ => []) [0]) FindsLoop (firstStart [10])
      unseenPause _ :=
    .snoc (.snoc (.snoc (.snoc (.snoc .nil (by decide) rfl) trivial rfl) trivial rfl)
      (by decide) rfl) trivial rfl
  exact ⟨_, hrun.run, (one_loop_iff _ _ hrun.run).2 hrun⟩

/-- The loop sees the pause and leaves, and `Continue` restarts nothing; a second `Start` makes two
loops. -/
theorem not_one_loop :
    (∃ s, Run (processorStep (fun _ _ => []) [0]) (firstStart ([] : List Nat))
        [.startClear, .callStop, .loopTest 0, .callContinue] s ∧
      s.isPause = false ∧ s.starting = false ∧ live s.loops = 0 ∧ ¬ OneLoop s) ∧
    ∃ s, Run (processorStep (fun _ _ => []) [0]) (firstStart ([] : List Nat))
        [.startClear, .startLaunch, .startClear] s ∧ live s.loops = 2 ∧ ¬ OneLoop s := by
  refine ⟨⟨_, .snoc (.snoc (.snoc (.snoc .nil rfl) rfl) rfl) rfl, rfl, rfl, rfl, ?_⟩,
    ⟨_, .snoc (.snoc (.snoc .nil rfl) rfl) rfl, rfl, ?_⟩⟩
  · intro hinv
    exact absurd (hinv.running rfl rfl) (by decide)
  · intro hinv
    exact absurd hinv.atMostOne (by decide)

end ArmFaceID.Client
