import ArmFaceID.Server.BestUser
import ArmFaceID.Server.Detector
import ArmFaceID.Library.Machine

/-!
# What observers see from the detection worker

Captures, toggles of `NeedRecognizeFace` and iterations of the worker thread, in any order. The
worker takes every captured frame once and in capture order, and what the observers are called with
is the concatenation, over the frames it has processed, of what each frame calls for by itself
(`worker_trace`).
-/

set_option autoImplicit false

namespace ArmFaceID.Server

open ArmFaceID.Library

variable {Mat QImage : Type} (V : Vision Mat QImage) (detectMultiScale : Mat → List Rect)
  (observers : List Observer) (users : List User)

/-- `FaceDetectorServer::DetectFace`. The gray picture it prepares is not the one searched. -/
def detectFace (frame : Mat) : List Rect := detectMultiScale frame

/-- The loop body of the worker thread in `FaceDetectorServer::Start` once it has taken a frame:
the calls made on the observers. -/
def workerBody (needRecognize : Bool) (curFrame : Mat) :
    Except CvException (List (Notification Mat Int)) :=
  match detectFace detectMultiScale curFrame with
  -- `continue`
  | [] => .ok []
  | face :: rest => do
      let detected := notifyAll observers (.onFaceDetected curFrame (face :: rest))
      if needRecognize then
        let found ← recognizeFaceFromDb V observers users curFrame
        return detected ++ found.calls
      return detected

/-- The detector, the frames the worker has processed, each with the `need_recognize_` it read, and
all calls made on the observers. -/
structure WorkerThread (Mat : Type) where
  detector : Detector Mat := {}
  processed : List (Mat × Bool) := []
  calls : List (Notification Mat Int) := []

inductive WorkerEvent (Mat : Type) where
  | onFrameCaptured (frame : Mat)
  | needRecognizeFace (toggled : Bool)
  | workerIteration

/-- The frame of a capture. -/
def WorkerEvent.captured : WorkerEvent Mat → Option Mat
  | .onFrameCaptured frame => some frame
  | _ => none

/-- One step. An exception that leaves the thread's function ends the process, so that no state
follows. -/
def workerStep (s : WorkerThread Mat) : WorkerEvent Mat → Option (WorkerThread Mat)
  | .onFrameCaptured frame => some { s with detector := s.detector.onFrameCaptured frame }
  | .needRecognizeFace toggled =>
      some { s with detector := s.detector.needRecognizeFace toggled }
  | .workerIteration =>
      match s.detector.popFrame with
      -- the queue is empty: `continue`
      | none => some s
      | some (curFrame, detector) =>
          match workerBody V detectMultiScale observers users detector.needRecognize curFrame with
          | .ok calls =>
              some ⟨detector, s.processed ++ [(curFrame, detector.needRecognize)], s.calls ++ calls⟩
          | .error _ => none

/-! ## What a frame calls for -/

/-- The calls for one frame: the faces detected, and the user of greatest similarity, if recognition
was on and the similarity is at least `0.6`. -/
def frameCalls (p : Mat × Bool) : List (Notification Mat Int) :=
  match detectFace detectMultiScale p.1 with
  | [] => []
  | face :: rest =>
      (observers.map fun o => (o, .onFaceDetected p.1 (face :: rest))) ++
        if p.2 = true then
          match firstBest (similarityTo V p.1) compareThreshold users with
          | none => []
          | some u => observers.map fun o => (o, .onFaceRecognized p.1 {} u.id)
        else []

/-- The `need_recognize_` of the latest toggle. -/
def lastToggle : List (WorkerEvent Mat) → Bool :=
  List.foldl (fun on e => match e with
    | .needRecognizeFace toggled => toggled
    | _ => on) false

section Step

variable {V detectMultiScale observers users} {s t : WorkerThread Mat} {e : WorkerEvent Mat}

/-- The body that ends normally makes the calls its frame calls for. -/
theorem workerBody_eq_ok {needRecognize : Bool} {curFrame : Mat}
    {calls : List (Notification Mat Int)}
    (h : workerBody V detectMultiScale observers users needRecognize curFrame = .ok calls) :
    calls = frameCalls V detectMultiScale observers users (curFrame, needRecognize) := by
  rw [workerBody] at h
  rw [frameCalls]
  cases hdet : detectFace detectMultiScale curFrame with
  | nil =>
      rw [hdet] at h
      cases h
      rfl
  | cons face rest =>
      rw [hdet] at h
      cases needRecognize with
      | false =>
          cases h
          exact (List.append_nil _).symm
      | true =>
          obtain ⟨found, hfound, hret⟩ := bind_eq_ok h
          cases hret
          have hbest := recognizeFaceFromDb_eq_firstBest observers (similarities_of_ok hfound)
          rw [hfound] at hbest
          rw [Except.ok.inj hbest]
          cases firstBest (similarityTo V curFrame) compareThreshold users with
          | none => rfl
          | some u => rfl

theorem lastToggle_snoc (es : List (WorkerEvent Mat)) (e : WorkerEvent Mat) :
    lastToggle (es ++ [e]) = match e with
      | .needRecognizeFace toggled => toggled
      | _ => lastToggle es := by
  rw [lastToggle, List.foldl_append]
  rfl

/-- A step processes a frame only as an iteration, which takes the front of the queue and reads the
toggle. -/
theorem workerStep_processed (h : workerStep V detectMultiScale observers users s e = some t) :
    t.processed = s.processed ∨
      ∃ p, (e = .workerIteration ∧ s.detector.frameQueue.head? = some p.1 ∧
        p.2 = s.detector.needRecognize) ∧ t.processed = s.processed ++ [p] := by
  cases e with
  | onFrameCaptured frame =>
      cases h
      exact .inl rfl
  | needRecognizeFace toggled =>
      cases h
      exact .inl rfl
  | workerIteration =>
      simp only [workerStep] at h
      split at h
      · cases h
        exact .inl rfl
      · next curFrame detector hpop =>
          obtain ⟨hqueue, -, hneed⟩ := Detector.popFrame_eq_some hpop
          split at h
          · cases h
            exact .inr ⟨_, ⟨rfl, by rw [hqueue]; rfl, hneed⟩, rfl⟩
          · cases h

theorem captured_snoc (es : List (WorkerEvent Mat)) (e : WorkerEvent Mat) :
    (es ++ [e]).filterMap WorkerEvent.captured =
      es.filterMap WorkerEvent.captured ++ e.captured.toList := by
  rw [List.filterMap_append]
  cases e with
  | onFrameCaptured frame => rfl
  | needRecognizeFace toggled => rfl
  | workerIteration => rfl

/-- The frames and calls so far, in terms of the events: no frame is lost, repeated or overtaken, and
the calls are those of the frames processed, in their order. -/
structure WorkerInvariant (V : Vision Mat QImage) (detectMultiScale : Mat → List Rect)
    (observers : List Observer) (users : List User) (es : List (WorkerEvent Mat))
    (s : WorkerThread Mat) : Prop where
  toggle : s.detector.needRecognize = lastToggle es
  frames : s.processed.map Prod.fst ++ s.detector.frameQueue = es.filterMap WorkerEvent.captured
  calls : s.calls = s.processed.flatMap (frameCalls V detectMultiScale observers users)

theorem workerInvariant_init : WorkerInvariant V detectMultiScale observers users [] {} where
  toggle := rfl
  frames := rfl
  calls := rfl

theorem workerInvariant_step {es : List (WorkerEvent Mat)}
    (hinv : WorkerInvariant V detectMultiScale observers users es s)
    (ht : workerStep V detectMultiScale observers users s e = some t) :
    WorkerInvariant V detectMultiScale observers users (es ++ [e]) t := by
  obtain ⟨htoggle, hframes, hcalls⟩ := hinv
  cases e with
  | onFrameCaptured frame =>
      cases ht
      refine ⟨?_, ?_, hcalls⟩
      · rw [lastToggle_snoc, Detector.onFrameCaptured_needRecognize]
        exact htoggle
      · rw [Detector.onFrameCaptured_frameQueue, ← List.append_assoc, hframes, captured_snoc]
        rfl
  | needRecognizeFace toggled =>
      cases ht
      refine ⟨?_, ?_, hcalls⟩
      · rw [lastToggle_snoc]
        rfl
      · rw [captured_snoc]
        exact hframes.trans (List.append_nil _).symm
  | workerIteration =>
      have hsame : (es ++ [WorkerEvent.workerIteration]).filterMap WorkerEvent.captured =
          es.filterMap WorkerEvent.captured := by
        rw [captured_snoc]
        exact List.append_nil _
      simp only [workerStep] at ht
      split at ht
      · -- nothing queued
        cases ht
        refine ⟨?_, ?_, hcalls⟩
        · rw [lastToggle_snoc]
          exact htoggle
        · rw [hsame]
          exact hframes
      · next curFrame detector hpop =>
          obtain ⟨hqueue, -, hneed⟩ := Detector.popFrame_eq_some hpop
          split at ht
          · next calls hbody =>
              cases ht
              refine ⟨?_, ?_, ?_⟩
              · rw [lastToggle_snoc, hneed]
                exact htoggle
              · -- the frame moves from the queue to those processed
                rw [hsame, ← hframes, hqueue, List.map_append, List.append_assoc]
                rfl
              · rw [List.flatMap_append, List.flatMap_singleton, hcalls, workerBody_eq_ok hbody]
          · cases ht

end Step

section Run

variable {V detectMultiScale observers users} {es : List (WorkerEvent Mat)} {s : WorkerThread Mat}

theorem workerInvariant_run (h : Run (workerStep V detectMultiScale observers users) {} es s) :
    WorkerInvariant V detectMultiScale observers users es s := by
  induction h with
  | nil => exact workerInvariant_init
  | snoc _ hstep ih => exact workerInvariant_step ih hstep

/-- The iteration that processed the `k`-th frame, and what it read. -/
theorem processed_taken (h : Run (workerStep V detectMultiScale observers users) {} es s) {k : Nat}
    {frame : Mat} {on : Bool} (hk : s.processed[k]? = some (frame, on)) :
    ∃ before u, before ++ [.workerIteration] <+: es ∧
      Run (workerStep V detectMultiScale observers users) {} before u ∧
      u.processed = s.processed.take k ∧ u.detector.frameQueue.head? = some frame ∧
      on = lastToggle before := by
  obtain ⟨before, e, u, hbefore, hu, htake, rfl, hfirst, hon⟩ :=
    h.entry_written rfl (fun _ _ _ => workerStep_processed) hk
  exact ⟨before, u, hbefore, hu, htake, hfirst, hon.trans (workerInvariant_run hu).toggle⟩

end Run

/-- **What observers see from the detection worker.** In every run the frames processed followed by
those queued are all captured frames in capture order, and the calls made are the concatenation of
what each frame processed calls for. Recognition was on for the `k`-th of them as the latest toggle
before its iteration says, the one that began with `k` frames processed and this one first in the
queue. -/
theorem worker_trace {es : List (WorkerEvent Mat)} {s : WorkerThread Mat}
    (h : Run (workerStep V detectMultiScale observers users) {} es s) :
    s.processed.map Prod.fst ++ s.detector.frameQueue = es.filterMap WorkerEvent.captured ∧
      s.calls = s.processed.flatMap (frameCalls V detectMultiScale observers users) ∧
      s.detector.needRecognize = lastToggle es ∧
      ∀ k frame on, s.processed[k]? = some (frame, on) →
        ∃ before u, before ++ [.workerIteration] <+: es ∧
          Run (workerStep V detectMultiScale observers users) {} before u ∧
          u.processed = s.processed.take k ∧ u.detector.frameQueue.head? = some frame ∧
          on = lastToggle before := by
  -- the first three parts are one invariant, since the calls need the frames' flags
  have hinv := workerInvariant_run h
  exact ⟨hinv.frames, hinv.calls, hinv.toggle, fun _ _ _ hk => processed_taken h hk⟩

/-- A frame with a face before recognition is switched on, one after, one after it is switched off
again, and one still queued. -/
def threeFrames : List (WorkerEvent Nat) :=
  [.onFrameCaptured 2, .workerIteration, .needRecognizeFace true, .onFrameCaptured 2,
    .onFrameCaptured 2, .workerIteration, .needRecognizeFace false, .onFrameCaptured 0,
    .workerIteration]

theorem worker_trace_three :
    let users : List User := [{ id := 1, faceImgBytes := [2] }]
    let detect : Nat → List Rect := fun frame => if frame = 2 then [{}] else []
    ∃ s : WorkerThread Nat, Run (workerStep sampleVision detect [7, 8] users) {} threeFrames s ∧
      s.calls = [(7, .onFaceDetected 2 [{}]), (8, .onFaceDetected 2 [{}]),
        (7, .onFaceDetected 2 [{}]), (8, .onFaceDetected 2 [{}]),
        (7, .onFaceRecognized 2 {} 1), (8, .onFaceRecognized 2 {} 1),
        (7, .onFaceDetected 2 [{}]), (8, .onFaceDetected 2 [{}])] ∧
      s.processed = [(2, false), (2, true), (2, false)] ∧
      s.processed.map Prod.fst ++ s.detector.frameQueue = [2, 2, 2, 0] ∧
      s.calls = s.processed.flatMap (frameCalls sampleVision detect [7, 8] users) := by
  intro users detect
  have hcomputed : (exec (workerStep sampleVision detect [7, 8] users) {} threeFrames).map
      (fun s => (s.calls, s.processed)) = some ([(7, .onFaceDetected 2 [{}]),
        (8, .onFaceDetected 2 [{}]), (7, .onFaceDetected 2 [{}]), (8, .onFaceDetected 2 [{}]),
        (7, .onFaceRecognized 2 {} 1), (8, .onFaceRecognized 2 {} 1),
        (7, .onFaceDetected 2 [{}]), (8, .onFaceDetected 2 [{}])],
        [(2, false), (2, true), (2, false)]) := by decide +kernel
  obtain ⟨s, hs, hout⟩ := Option.map_eq_some_iff.1 hcomputed
  have htrace := worker_trace sampleVision detect [7, 8] users (run_iff_exec.2 hs)
  exact ⟨s, run_iff_exec.2 hs, congrArg Prod.fst hout, congrArg Prod.snd hout, htrace.1,
    htrace.2.1⟩

end ArmFaceID.Server
