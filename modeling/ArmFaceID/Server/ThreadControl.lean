import ArmFaceID.Library.Loops
import ArmFaceID.Library.Machine

/-!
# Starting and stopping the server's threads

`FaceDetectorServer::Start` does nothing once `worker_thread_` is set, and `Stop` clears
`is_thread_running_` and leaves `worker_thread_` set. So there is never more than one loop of a
kind, but a `Start` after a `Start` and a `Stop` restarts nothing (`start_stop_iff`).
-/

set_option autoImplicit false

namespace ArmFaceID.Server

open ArmFaceID.Library

/-- The control calls. -/
inductive ControlCall where
  | start
  | stop
  deriving DecidableEq

/-- Where a `Start` is: not under way, about to launch the detection thread, or about to launch the
register thread. -/
inductive StartPhase where
  | idle
  | flagSet
  | workerLaunched
  deriving DecidableEq

/-- The members of `FaceDetectorServer` that `Start` and `Stop` use, the threads launched on the two
loops, and the control calls' progress. -/
structure ServerThreads where
  /-- `worker_thread_ != nullptr`. -/
  workerThread : Bool := false
  isThreadRunning : Bool := false
  detectionLoops : List (Loop Unit) := []
  registerLoops : List (Loop Unit) := []
  phase : StartPhase := .idle
  lastCall : Option ControlCall := none

inductive ThreadEvent where
  | callStart
  | launchWorker
  | launchRegister
  | callStop
  | detectionTest (thread : Nat)
  | detectionBody (thread : Nat)
  | registerTest (thread : Nat)
  | registerBody (thread : Nat)

/-- One step. Control calls come one after another; `Start` goes on with the two launches unless it
returns at its guard. -/
def threadStep (s : ServerThreads) : ThreadEvent → Option ServerThreads
  | .callStart =>
      if s.phase = .idle then
        if s.workerThread then some { s with lastCall := some .start }
        else some { s with isThreadRunning := true, phase := .flagSet, lastCall := some .start }
      else none
  | .launchWorker =>
      if s.phase = .flagSet then
        some { s with
          workerThread := true
          detectionLoops := launch s.detectionLoops ()
          phase := .workerLaunched }
      else none
  | .launchRegister =>
      if s.phase = .workerLaunched then
        some { s with registerLoops := launch s.registerLoops (), phase := .idle }
      else none
  | .callStop =>
      if s.phase = .idle then some { s with isThreadRunning := false, lastCall := some .stop }
      else none
  | .detectionTest thread =>
      (testLoop (!s.isThreadRunning) s.detectionLoops thread).map fun loops =>
        { s with detectionLoops := loops }
  | .detectionBody thread =>
      (workLoop some s.detectionLoops thread).map fun loops => { s with detectionLoops := loops }
  | .registerTest thread =>
      (testLoop (!s.isThreadRunning) s.registerLoops thread).map fun loops =>
        { s with registerLoops := loops }
  | .registerBody thread =>
      (workLoop some s.registerLoops thread).map fun loops => { s with registerLoops := loops }

/-- Between control calls at most one loop of each kind is live, and exactly one, with the flag set,
if the last call was `Start`. -/
def Disciplined (s : ServerThreads) : Prop :=
  s.phase = .idle → live s.detectionLoops ≤ 1 ∧ live s.registerLoops ≤ 1 ∧
    (s.lastCall = some .start →
      s.isThreadRunning = true ∧ live s.detectionLoops = 1 ∧ live s.registerLoops = 1)

/-- `Start` is called before any thread was launched or while the threads are to go on running: not
after a `Start` and a `Stop`. -/
def NoRestart (s : ServerThreads) : ThreadEvent → Prop
  | .callStart => s.workerThread = true → s.isThreadRunning = true
  | _ => True

instance (s : ServerThreads) (e : ThreadEvent) : Decidable (NoRestart s e) :=
  match e with
  | .callStart => inferInstanceAs (Decidable (_ → _))
  | .launchWorker => isTrue trivial
  | .launchRegister => isTrue trivial
  | .callStop => isTrue trivial
  | .detectionTest _ => isTrue trivial
  | .detectionBody _ => isTrue trivial
  | .registerTest _ => isTrue trivial
  | .registerBody _ => isTrue trivial

/-- How far `Start` has launched the threads of one kind: not at all, or one thread, which is live
while the flag is set. -/
def Launched (running launched : Bool) (loops : List (Loop Unit)) : Prop :=
  if launched then live loops ≤ 1 ∧ (running = true → live loops = 1) else live loops = 0

section Launched

variable {running launched : Bool} {loops loops' : List (Loop Unit)} {i : Nat}

theorem Launched.le_one (h : Launched running launched loops) : live loops ≤ 1 := by
  cases launched with
  | false =>
      have hnone : live loops = 0 := h
      omega
  | true => exact h.1

/-- The threads of one kind after a step that keeps their number. -/
theorem Launched.of_live (h : Launched running launched loops) (hlive : live loops' = live loops) :
    Launched running launched loops' := by
  rw [Launched, hlive]
  exact h

theorem Launched.test (h : Launched running launched loops)
    (ht : testLoop (!running) loops i = some loops') : Launched running launched loops' := by
  cases running with
  | true => exact h.of_live (live_testLoop_stay ht)
  | false =>
      -- the thread leaves
      have hleft := live_testLoop_leave ht
      have hone := h.le_one
      cases launched with
      | false =>
          have hnone : live loops = 0 := h
          omega
      | true => exact ⟨by omega, (fun h => nomatch h)⟩

theorem Launched.stop (h : Launched running launched loops) : Launched false launched loops := by
  cases launched with
  | false => exact h
  | true => exact ⟨h.1, (fun h => nomatch h)⟩

theorem Launched.launch (h : Launched running false loops) :
    Launched true true (launch loops ()) := by
  have hnone : live loops = 0 := h
  have hone : live (Library.launch loops ()) = 1 := by rw [live_launch, hnone]
  exact ⟨Nat.le_of_eq hone, fun _ => hone⟩

end Launched

/-- The flag, the guard's pointer and the threads at each stage of `Start`. -/
structure ThreadInvariant (s : ServerThreads) : Prop where
  detection : Launched s.isThreadRunning s.workerThread s.detectionLoops
  register : Launched s.isThreadRunning (s.workerThread && s.phase = .idle) s.registerLoops
  flagSet : s.phase = .flagSet → s.workerThread = false ∧ s.isThreadRunning = true
  workerLaunched : s.phase = .workerLaunched → s.workerThread = true ∧ s.isThreadRunning = true
  running : s.lastCall = some .start → s.isThreadRunning = true
  called : s.phase = .idle → s.lastCall = some .start → s.workerThread = true

section Step

variable {s t : ServerThreads} {e : ThreadEvent}

theorem threadInvariant_init : ThreadInvariant {} where
  detection := rfl
  register := rfl
  flagSet h := nomatch h
  workerLaunched h := nomatch h
  running h := nomatch h
  called _ h := nomatch h

theorem ThreadInvariant.disciplined (hinv : ThreadInvariant s) : Disciplined s := by
  intro hidle
  refine ⟨hinv.detection.le_one, hinv.register.le_one, ?_⟩
  intro hstart
  -- the guard's pointer and the flag are both set, so both launches are done
  have hrun := hinv.running hstart
  have hworker := hinv.called hidle hstart
  have hdet := hinv.detection
  have hreg := hinv.register
  rw [hworker, hrun] at hdet
  rw [hworker, hrun, hidle] at hreg
  exact ⟨hrun, hdet.2 rfl, hreg.2 rfl⟩

theorem threadInvariant_step (hinv : ThreadInvariant s) (hguard : NoRestart s e)
    (ht : threadStep s e = some t) : ThreadInvariant t := by
  obtain ⟨hdet, hreg, hflag, hworker, hrun, hcalled⟩ := hinv
  cases e with
  | callStart =>
      simp only [threadStep] at ht
      split at ht
      · next hidle =>
          -- `worker_thread_ != nullptr`
          split at ht
          · next hset =>
              -- the guard returns: the threads are running already
              cases ht
              exact ⟨hdet, hreg, hflag, hworker, fun _ => hguard hset, fun _ _ => hset⟩
          · next hunset =>
              cases ht
              have hnull : s.workerThread = false := by simpa using hunset
              rw [hnull] at hdet hreg
              exact ⟨by rw [hnull]; exact hdet, by rw [hnull]; exact hreg, fun _ => ⟨hnull, rfl⟩,
                (fun h => nomatch h), fun _ => rfl, (fun h => nomatch h)⟩
      · cases ht
  | launchWorker =>
      simp only [threadStep] at ht
      split at ht
      · next hphase =>
          cases ht
          obtain ⟨hnull, hset⟩ := hflag hphase
          rw [hnull] at hdet hreg
          refine ⟨?_, ?_, (fun h => nomatch h), fun _ => ⟨rfl, hset⟩, fun _ => hset,
            (fun h => nomatch h)⟩
          · rw [hset]
            exact hdet.launch
          · exact hreg
      · cases ht
  | launchRegister =>
      simp only [threadStep] at ht
      split at ht
      · next hphase =>
          cases ht
          obtain ⟨hthread, hset⟩ := hworker hphase
          -- until this step no register thread was launched
          rw [hphase, Bool.and_comm] at hreg
          refine ⟨hdet, ?_, (fun h => nomatch h), (fun h => nomatch h), fun _ => hset,
            fun _ _ => hthread⟩
          rw [hthread, hset]
          exact hreg.launch
      · cases ht
  | callStop =>
      simp only [threadStep] at ht
      split at ht
      · next hidle =>
          cases ht
          -- no `Start` is half done when `Stop` is called
          refine ⟨hdet.stop, hreg.stop, ?_, ?_, (fun h => nomatch h), (fun _ h => nomatch h)⟩
          · intro h
            rw [show s.phase = .flagSet from h] at hidle
            cases hidle
          · intro h
            rw [show s.phase = .workerLaunched from h] at hidle
            cases hidle
      · cases ht
  | detectionTest thread =>
      obtain ⟨loops, hloops, rfl⟩ := Option.map_eq_some_iff.1 ht
      exact ⟨hdet.test hloops, hreg, hflag, hworker, hrun, hcalled⟩
  | detectionBody thread =>
      obtain ⟨loops, hloops, rfl⟩ := Option.map_eq_some_iff.1 ht
      exact ⟨hdet.of_live (live_workLoop hloops), hreg, hflag, hworker, hrun, hcalled⟩
  | registerTest thread =>
      obtain ⟨loops, hloops, rfl⟩ := Option.map_eq_some_iff.1 ht
      exact ⟨hdet, hreg.test hloops, hflag, hworker, hrun, hcalled⟩
  | registerBody thread =>
      obtain ⟨loops, hloops, rfl⟩ := Option.map_eq_some_iff.1 ht
      exact ⟨hdet, hreg.of_live (live_workLoop hloops), hflag, hworker, hrun, hcalled⟩

/-- A `Start` that returns at its guard after a `Stop` leaves the flag cleared. -/
theorem not_disciplined_of_restart (hguard : ¬ NoRestart s e) (ht : threadStep s e = some t) :
    ¬ Disciplined t := by
  intro hdisc
  cases e with
  | callStart =>
      obtain ⟨hset, hrun⟩ : s.workerThread = true ∧ ¬ s.isThreadRunning = true :=
        Classical.not_imp.1 hguard
      simp only [threadStep, hset, if_true] at ht
      split at ht
      · next hidle =>
          -- the call returns at the guard, and the flag stays cleared
          cases ht
          exact hrun ((hdisc hidle).2.2 rfl).1
      · cases ht
  | _ => exact hguard trivial

end Step

/-- **Start and stop.** In a run of control calls and loop tests, between control calls there is
always at most one live loop of each kind, and exactly one, with the flag set, if the last call was
`Start`, if and only if no `Start` of the run comes after a `Start` and a `Stop`. -/
theorem start_stop_iff {es : List ThreadEvent} {s : ServerThreads} (h : Run threadStep {} es s) :
    Always threadStep Disciplined {} es ↔ GuardedRun threadStep NoRestart {} es s :=
  h.always_iff_guarded threadInvariant_init (fun _ hs => hs.disciplined)
    (fun _ _ _ => threadInvariant_step) (fun _ _ _ _ => not_disciplined_of_restart)

/-- A `Start`, a second one that changes nothing, and a `Stop` that the detection thread sees. -/
def startedOnce : List ThreadEvent :=
  [.callStart, .launchWorker, .launchRegister, .callStart, .callStop, .detectionTest 0]

theorem start_stop_once :
    ∃ s, Run threadStep {} startedOnce s ∧ Always threadStep Disciplined {} startedOnce := by
  have hrun : GuardedRun threadStep NoRestart {} startedOnce _ :=
    .snoc (.snoc (.snoc (.snoc (.snoc (.snoc .nil (by decide) rfl) trivial rfl) trivial rfl)
      (by decide) rfl) trivial rfl) trivial rfl
  exact ⟨_, hrun.run, (start_stop_iff hrun.run).2 hrun⟩

/-- `Start`, `Stop`, both threads leave, and `Start` again: no thread is running. -/
theorem start_does_not_restart :
    ∃ s, Run threadStep {} [.callStart, .launchWorker, .launchRegister, .callStop,
        .detectionTest 0, .registerTest 0, .callStart] s ∧
      s.phase = .idle ∧ s.lastCall = some .start ∧ s.isThreadRunning = false ∧
      live s.detectionLoops = 0 ∧ live s.registerLoops = 0 ∧ ¬ Disciplined s := by
  refine ⟨_, .snoc (.snoc (.snoc (.snoc (.snoc (.snoc (.snoc .nil rfl) rfl) rfl) rfl) rfl) rfl) rfl,
    rfl, rfl, rfl, rfl, rfl, ?_⟩
  intro hdisc
  exact absurd ((hdisc rfl).2.2 rfl).1 (by decide)

end ArmFaceID.Server
