import ArmFaceID.Server.RegisterQueue
import ArmFaceID.Server.WorkerTrace

/-!
# The two threads of the detector

`FaceDetectorServer::Start` launches the detection worker and the register thread. They share the
detector with the camera and the window and take their iterations in any order. Neither disturbs the
other: the worker sees every captured frame once, the register thread every frame requested, and
what they store and tell the observers is what each of their frames calls for
(`detector_threads_trace`). An iteration more for each queued frame leaves the register thread
nothing to do (`register_thread_catches_up`).
-/

set_option autoImplicit false

namespace ArmFaceID.Server

open ArmFaceID.Library

variable {Mat QImage : Type} (V : Vision Mat QImage) (detectMultiScale : Mat → List Rect)
  (observers : List Observer) (users : List User)

/-- The detector, the frames each thread has taken, what `RegisterFeature` stores, and all calls made
on the observers. -/
structure DetectorThreads (Mat : Type) where
  detector : Detector Mat := {}
  processed : List (Mat × Bool) := []
  popped : List Mat := []
  features : FeatureStore := {}
  calls : List (Notification Mat Int) := []

inductive DetectorEvent (Mat : Type) where
  | needRegisterFace (user : User)
  | needRecognizeFace (toggled : Bool)
  | onFrameCaptured (frame : Mat)
  | workerIteration
  | registerIteration

/-- One step. An exception that leaves the worker's function ends the process. -/
def detectorStep (s : DetectorThreads Mat) : DetectorEvent Mat → Option (DetectorThreads Mat)
  | .needRegisterFace user => some { s with detector := s.detector.needRegisterFace user }
  | .needRecognizeFace toggled => some { s with detector := s.detector.needRecognizeFace toggled }
  | .onFrameCaptured frame => some { s with detector := s.detector.onFrameCaptured frame }
  | .workerIteration =>
      match s.detector.popFrame with
      | none => some s
      | some (curFrame, detector) =>
          match workerBody V detectMultiScale observers users detector.needRecognize curFrame with
          | .ok calls =>
              some { s with
                detector := detector
                processed := s.processed ++ [(curFrame, detector.needRecognize)]
                calls := s.calls ++ calls }
          | .error _ => none
  | .registerIteration =>
      match s.detector.popRegister with
      | none => some s
      | some (curFrame, detector) =>
          let result := registerFeature V observers s.features curFrame
          some { s with
            detector := detector
            popped := s.popped ++ [curFrame]
            features := result.store
            calls := s.calls ++ result.calls }

/-! ## What a requested frame calls for -/

/-- The features of the first face `DetectFaces` finds. -/
def featureOf (frame : Mat) : Option (List ℚ) :=
  match V.detectFaces frame with
  | [] => none
  | topFace :: _ => some (V.extract frame (V.detectPoints frame topFace))

/-- The calls for a requested frame: none without a face. -/
def registerCalls (frame : Mat) : List (Notification Mat Int) :=
  if (featureOf V frame).isSome then
    observers.map fun o => (o, .onFaceRegistered frame {} kFaceAlreadyExisted)
  else []

/-- A call that reports a registration. -/
def isReport : Notification Mat Int → Bool
  | (_, .onFaceRegistered _ _ _) => true
  | _ => false

/-- What the camera and the window do, and what one of the threads does. -/
def DetectorEvent.forWorker : DetectorEvent Mat → Option (WorkerEvent Mat)
  | .needRecognizeFace toggled => some (.needRecognizeFace toggled)
  | .onFrameCaptured frame => some (.onFrameCaptured frame)
  | .workerIteration => some .workerIteration
  | _ => none

def DetectorEvent.forRegister : DetectorEvent Mat → Option (RegisterEvent Mat)
  | .needRegisterFace user => some (.needRegisterFace user)
  | .onFrameCaptured frame => some (.onFrameCaptured frame)
  | .registerIteration => some .registerIteration
  | _ => none

section Frames

variable {V observers}

variable (V observers) in
/-- `RegisterFeature` keeps the features of a face and reports it, whatever it stored before. -/
theorem registerFeature_eq (store : FeatureStore) (img : Mat) :
    (registerFeature V observers store img).calls = registerCalls V observers img ∧
      (registerFeature V observers store img).store.featuresVec =
        store.featuresVec ++ (featureOf V img).toList ∧
      (registerFeature V observers store img).store.lastFeatures =
        (featureOf V img).getD store.lastFeatures := by
  cases hdet : V.detectFaces img with
  | nil =>
      have hnone : featureOf V img = none := by simp only [featureOf, hdet]
      rw [registerCalls, hnone, registerFeature, hdet]
      exact ⟨rfl, (List.append_nil _).symm, rfl⟩
  | cons topFace rest =>
      have hsome : featureOf V img = some (V.extract img (V.detectPoints img topFace)) := by
        simp only [featureOf, hdet]
      rw [registerCalls, hsome, registerFeature, hdet]
      exact ⟨rfl, rfl, rfl⟩

theorem filter_isReport_reportRegistered (frame : Mat) (code : Int) :
    (reportRegistered observers frame code).filter isReport =
      reportRegistered observers frame code := by
  rw [List.filter_eq_self]
  intro n hn
  obtain ⟨o, -, rfl⟩ := List.mem_map.1 hn
  rfl

theorem filter_isReport_registerCalls (frame : Mat) :
    (registerCalls V observers frame).filter isReport = registerCalls V observers frame := by
  rw [registerCalls]
  split
  · exact filter_isReport_reportRegistered _ _
  · rfl

/-- The register thread makes no call of the worker's kind, and the worker none of the other. -/
theorem filter_not_isReport_registerCalls (frame : Mat) :
    (registerCalls V observers frame).filter (fun n => !isReport n) = [] := by
  rw [List.filter_eq_nil_iff]
  intro n hn
  rw [← filter_isReport_registerCalls] at hn
  simp [(List.mem_filter.1 hn).2]

variable {detectMultiScale users}

theorem isReport_frameCalls {p : Mat × Bool} {n : Notification Mat Int}
    (hn : n ∈ frameCalls V detectMultiScale observers users p) : isReport n = false := by
  rw [frameCalls] at hn
  split at hn
  · cases hn
  · rcases List.mem_append.1 hn with hn | hn
    · obtain ⟨o, -, rfl⟩ := List.mem_map.1 hn
      rfl
    · split at hn
      · split at hn
        · cases hn
        · obtain ⟨o, -, rfl⟩ := List.mem_map.1 hn
          rfl
      · cases hn

end Frames

/-! ## The invariant -/

/-- Each thread keeps its own account of the events it has a part in. -/
structure ThreadsInvariant (es : List (DetectorEvent Mat)) (s : DetectorThreads Mat) : Prop where
  worker : WorkerInvariant V detectMultiScale observers users
    (es.filterMap DetectorEvent.forWorker)
    ⟨s.detector, s.processed, s.calls.filter fun n => !isReport n⟩
  register : RegisterInvariant (es.filterMap DetectorEvent.forRegister) ⟨s.detector, s.popped⟩
  reports : s.calls.filter isReport = s.popped.flatMap (registerCalls V observers)
  stored : s.features.featuresVec = s.popped.filterMap (featureOf V)
  last : s.features.lastFeatures = (s.popped.filterMap (featureOf V)).getLastD []

section Step

variable {V detectMultiScale observers users} {es : List (DetectorEvent Mat)}
  {s t : DetectorThreads Mat} {e : DetectorEvent Mat}

/-- The worker's account reads the frame queue and the toggle only. -/
theorem WorkerInvariant.of_detector {es : List (WorkerEvent Mat)} {w : WorkerThread Mat}
    (h : WorkerInvariant V detectMultiScale observers users es w) {detector : Detector Mat}
    (hframes : detector.frameQueue = w.detector.frameQueue)
    (htoggle : detector.needRecognize = w.detector.needRecognize) :
    WorkerInvariant V detectMultiScale observers users es ⟨detector, w.processed, w.calls⟩ where
  toggle := htoggle.trans h.toggle
  frames := by
    rw [hframes]
    exact h.frames
  calls := h.calls

/-- The register thread's account reads the register queue and the flag only. -/
theorem RegisterInvariant.of_detector {es : List (RegisterEvent Mat)} {r : RegisterThread Mat}
    (h : RegisterInvariant es r) {detector : Detector Mat}
    (hframes : detector.registerQueue = r.detector.registerQueue)
    (hflag : detector.needRegister = r.detector.needRegister) :
    RegisterInvariant es ⟨detector, r.popped⟩ where
  flag := by
    rw [hflag]
    exact h.flag
  frames := by
    rw [hframes]
    exact h.frames

theorem popFrame_needRegister {d d' : Detector Mat} {frame : Mat}
    (h : d.popFrame = some (frame, d')) : d'.needRegister = d.needRegister := by
  simp only [Detector.popFrame] at h
  split at h
  · cases h
  · cases h
    rfl

theorem popRegister_needRecognize {d d' : Detector Mat} {frame : Mat}
    (h : d.popRegister = some (frame, d')) : d'.needRecognize = d.needRecognize := by
  simp only [Detector.popRegister] at h
  split at h
  · cases h
  · cases h
    rfl

/-- A step of the register thread's machine, carried over. -/
theorem registerInvariant_of_step {es : List (RegisterEvent Mat)} {r r' : RegisterThread Mat}
    {e : RegisterEvent Mat} (h : RegisterInvariant es r) (hstep : registerStep r e = some r') :
    RegisterInvariant (es ++ [e]) r' := by
  obtain ⟨r'', hstep', hinv⟩ := registerInvariant_step h e
  rw [← Option.some.inj (hstep.symm.trans hstep')] at hinv
  exact hinv

theorem threadsInvariant_init :
    ThreadsInvariant V detectMultiScale observers users [] ({} : DetectorThreads Mat) where
  worker := workerInvariant_init
  register := registerInvariant_init
  reports := rfl
  stored := rfl
  last := rfl

theorem threadsInvariant_worker
    (hinv : ThreadsInvariant V detectMultiScale observers users es s)
    (ht : detectorStep V detectMultiScale observers users s .workerIteration = some t) :
    ThreadsInvariant V detectMultiScale observers users (es ++ [.workerIteration]) t := by
  have hworker := hinv.worker
  have hevents : (es ++ [DetectorEvent.workerIteration]).filterMap DetectorEvent.forWorker =
      es.filterMap DetectorEvent.forWorker ++ [WorkerEvent.workerIteration] := by
    rw [List.filterMap_append]
    rfl
  have hothers : (es ++ [DetectorEvent.workerIteration]).filterMap DetectorEvent.forRegister =
      es.filterMap DetectorEvent.forRegister := by
    rw [List.filterMap_append]
    exact List.append_nil _
  simp only [detectorStep] at ht
  split at ht
  · next hpop =>
      cases ht
      refine ⟨?_, ?_, hinv.reports, hinv.stored, hinv.last⟩
      · rw [hevents]
        apply workerInvariant_step hworker
        simp only [workerStep, hpop]
      · rw [hothers]
        exact hinv.register
  · next curFrame detector hpop =>
      split at ht
      · next calls hbody =>
          cases ht
          obtain ⟨-, hqueue, -⟩ := Detector.popFrame_eq_some hpop
          -- what the worker calls is never a report
          have hkind : ∀ n ∈ calls, isReport n = false := by
            rw [workerBody_eq_ok hbody]
            exact fun n hn => isReport_frameCalls hn
          have hnone : calls.filter isReport = [] := by
            rw [List.filter_eq_nil_iff]
            intro n hn
            rw [hkind n hn]
            exact Bool.false_ne_true
          have hall : calls.filter (fun n => !isReport n) = calls := by
            rw [List.filter_eq_self]
            intro n hn
            rw [hkind n hn]
            rfl
          refine ⟨?_, ?_, ?_, hinv.stored, hinv.last⟩
          · rw [hevents]
            apply workerInvariant_step hworker
            simp only [workerStep, hpop, hbody, List.filter_append, hall]
          · rw [hothers]
            exact hinv.register.of_detector hqueue (popFrame_needRegister hpop)
          · rw [List.filter_append, hnone, List.append_nil]
            exact hinv.reports
      · cases ht

theorem threadsInvariant_register
    (hinv : ThreadsInvariant V detectMultiScale observers users es s)
    (ht : detectorStep V detectMultiScale observers users s .registerIteration = some t) :
    ThreadsInvariant V detectMultiScale observers users (es ++ [.registerIteration]) t := by
  have hevents : (es ++ [DetectorEvent.registerIteration]).filterMap DetectorEvent.forRegister =
      es.filterMap DetectorEvent.forRegister ++ [RegisterEvent.registerIteration] := by
    rw [List.filterMap_append]
    rfl
  have hothers : (es ++ [DetectorEvent.registerIteration]).filterMap DetectorEvent.forWorker =
      es.filterMap DetectorEvent.forWorker := by
    rw [List.filterMap_append]
    exact List.append_nil _
  simp only [detectorStep] at ht
  split at ht
  · next hpop =>
      cases ht
      refine ⟨?_, ?_, hinv.reports, hinv.stored, hinv.last⟩
      · rw [hothers]
        exact hinv.worker
      · rw [hevents]
        apply registerInvariant_of_step hinv.register
        simp only [registerStep, hpop]
  · next curFrame detector hpop =>
      cases ht
      obtain ⟨-, -, hqueue, -⟩ := Detector.popRegister_eq_some hpop
      obtain ⟨hcalls, hvec, hlast⟩ := registerFeature_eq V observers s.features curFrame
      refine ⟨?_, ?_, ?_, ?_, ?_⟩
      · rw [hothers, hcalls, List.filter_append, filter_not_isReport_registerCalls,
          List.append_nil]
        exact hinv.worker.of_detector hqueue (popRegister_needRecognize hpop)
      · rw [hevents]
        apply registerInvariant_of_step hinv.register
        simp only [registerStep, hpop]
      · rw [hcalls, List.filter_append, filter_isReport_registerCalls, hinv.reports,
          List.flatMap_append, List.flatMap_singleton]
      · rw [hvec, hinv.stored, List.filterMap_append]
        cases hfeature : featureOf V curFrame <;> simp [hfeature]
      · rw [hlast, hinv.last, List.filterMap_append]
        cases hfeature : featureOf V curFrame <;> simp [hfeature]

theorem threadsInvariant_step
    (hinv : ThreadsInvariant V detectMultiScale observers users es s)
    (ht : detectorStep V detectMultiScale observers users s e = some t) :
    ThreadsInvariant V detectMultiScale observers users (es ++ [e]) t := by
  cases e with
  | needRegisterFace user =>
      cases ht
      refine ⟨?_, ?_, hinv.reports, hinv.stored, hinv.last⟩
      · rw [List.filterMap_append]
        exact (List.append_nil _).symm ▸ hinv.worker.of_detector rfl rfl
      · rw [List.filterMap_append]
        exact registerInvariant_of_step hinv.register rfl
  | needRecognizeFace toggled =>
      cases ht
      refine ⟨?_, ?_, hinv.reports, hinv.stored, hinv.last⟩
      · rw [List.filterMap_append]
        exact workerInvariant_step hinv.worker rfl
      · rw [List.filterMap_append]
        exact (List.append_nil _).symm ▸ hinv.register.of_detector rfl rfl
  | onFrameCaptured frame =>
      -- both threads get the frame, the register thread if it was requested
      cases ht
      refine ⟨?_, ?_, hinv.reports, hinv.stored, hinv.last⟩
      · rw [List.filterMap_append]
        exact workerInvariant_step hinv.worker rfl
      · rw [List.filterMap_append]
        exact registerInvariant_of_step hinv.register rfl
  | workerIteration => exact threadsInvariant_worker hinv ht
  | registerIteration => exact threadsInvariant_register hinv ht

theorem threadsInvariant_run
    (h : Run (detectorStep V detectMultiScale observers users) {} es s) :
    ThreadsInvariant V detectMultiScale observers users es s := by
  induction h with
  | nil => exact threadsInvariant_init
  | snoc _ hstep ih => exact threadsInvariant_step ih hstep

theorem detectorStep_processed
    (h : detectorStep V detectMultiScale observers users s e = some t) :
    t.processed = s.processed ∨
      ∃ p, (e = .workerIteration ∧ s.detector.frameQueue.head? = some p.1 ∧
        p.2 = s.detector.needRecognize) ∧ t.processed = s.processed ++ [p] := by
  cases e with
  | needRegisterFace user =>
      cases h
      exact .inl rfl
  | needRecognizeFace toggled =>
      cases h
      exact .inl rfl
  | onFrameCaptured frame =>
      cases h
      exact .inl rfl
  | workerIteration =>
      simp only [detectorStep] at h
      split at h
      · cases h
        exact .inl rfl
      · next curFrame detector hpop =>
          obtain ⟨hqueue, -, hneed⟩ := Detector.popFrame_eq_some hpop
          split at h
          · cases h
            exact .inr ⟨_, ⟨rfl, by rw [hqueue]; rfl, hneed⟩, rfl⟩
          · cases h
  | registerIteration =>
      simp only [detectorStep] at h
      split at h
      · cases h
        exact .inl rfl
      · cases h
        exact .inl rfl

/-- The iteration of the worker that processed the `k`-th frame, and what it read. -/
theorem detector_processed_taken
    (h : Run (detectorStep V detectMultiScale observers users) {} es s) {k : Nat} {frame : Mat}
    {on : Bool} (hk : s.processed[k]? = some (frame, on)) :
    ∃ before u, before ++ [.workerIteration] <+: es ∧
      Run (detectorStep V detectMultiScale observers users) {} before u ∧
      u.processed = s.processed.take k ∧ u.detector.frameQueue.head? = some frame ∧
      on = lastToggle (before.filterMap DetectorEvent.forWorker) := by
  obtain ⟨before, e, u, hbefore, hu, htake, ⟨rfl, hfirst, hon⟩⟩ :=
    h.entry_written rfl (fun _ _ _ => detectorStep_processed) hk
  exact ⟨before, u, hbefore, hu, htake, hfirst, hon.trans (threadsInvariant_run hu).worker.toggle⟩

end Step

/-- **The two threads.** In every run: the frames the worker has taken, then those in its queue, are
the frames captured; the frames the register thread has taken, then those in its queue, are the
frames requested. The calls that are no reports are those the worker's frames call for, in order,
recognition being on for each as the latest toggle before its iteration says; the reports are those
the register thread's frames call for. `features_vec_` holds the features of the requested frames
with a face, in order, and `last_features_` the last of them. -/
theorem detector_threads_trace {es : List (DetectorEvent Mat)} {s : DetectorThreads Mat}
    (h : Run (detectorStep V detectMultiScale observers users) {} es s) :
    s.processed.map Prod.fst ++ s.detector.frameQueue =
        (es.filterMap DetectorEvent.forWorker).filterMap WorkerEvent.captured ∧
      (s.popped ++ s.detector.registerQueue).map some =
        requestedFrames (es.filterMap DetectorEvent.forRegister) ∧
      s.calls.filter (fun n => !isReport n) =
        s.processed.flatMap (frameCalls V detectMultiScale observers users) ∧
      (∀ k frame on, s.processed[k]? = some (frame, on) →
        ∃ before u, before ++ [.workerIteration] <+: es ∧
          Run (detectorStep V detectMultiScale observers users) {} before u ∧
          u.processed = s.processed.take k ∧ u.detector.frameQueue.head? = some frame ∧
          on = lastToggle (before.filterMap DetectorEvent.forWorker)) ∧
      s.calls.filter isReport = s.popped.flatMap (registerCalls V observers) ∧
      s.features.featuresVec = s.popped.filterMap (featureOf V) ∧
      s.features.lastFeatures = (s.popped.filterMap (featureOf V)).getLastD [] := by
  have hinv := threadsInvariant_run h
  exact ⟨hinv.worker.frames, hinv.register.frames, hinv.worker.calls,
    fun _ _ _ hk => detector_processed_taken h hk, hinv.reports, hinv.stored, hinv.last⟩

/-- The worker announces and recognises a face while the register thread stores the features of
another one. -/
def bothThreads : List (DetectorEvent Nat) :=
  [.onFrameCaptured 2, .needRegisterFace {}, .needRecognizeFace true, .onFrameCaptured 1,
    .registerIteration, .workerIteration, .needRecognizeFace false, .needRegisterFace {},
    .onFrameCaptured 3, .registerIteration, .workerIteration]

theorem detector_threads_trace_both :
    ∃ s : DetectorThreads Nat, Run (detectorStep sampleVision
        (fun frame => if frame = 2 then [{}] else []) [7] [{ id := 1, faceImgBytes := [2] }]) {}
        bothThreads s ∧
      s.calls = [(7, .onFaceDetected 2 [{}]), (7, .onFaceRecognized 2 {} 1),
        (7, .onFaceRegistered 3 {} (-2))] ∧
      s.processed = [(2, true), (1, false)] ∧
      s.features.featuresVec = [[3]] ∧
      s.features.featuresVec = s.popped.filterMap (featureOf sampleVision) := by
  have hcomputed : (exec (detectorStep sampleVision
      (fun frame => if frame = 2 then [{}] else []) [7] [{ id := 1, faceImgBytes := [2] }]) {}
      bothThreads).map (fun s => (s.calls, s.processed, s.features.featuresVec)) =
        some ([(7, .onFaceDetected 2 [{}]), (7, .onFaceRecognized 2 {} 1),
          (7, .onFaceRegistered 3 {} (-2))], [(2, true), (1, false)], [[3]]) := by
    decide +kernel
  obtain ⟨s, hs, hout⟩ := Option.map_eq_some_iff.1 hcomputed
  have hrun := run_iff_exec.2 hs
  exact ⟨s, hrun, congrArg Prod.fst hout, congrArg (fun p => p.2.1) hout,
    congrArg (fun p => p.2.2) hout, (detector_threads_trace _ _ _ _ hrun).2.2.2.2.2.1⟩

/-! ## Catching up -/

section CatchUp

variable {V detectMultiScale observers users}

/-- An iteration on a queue that is not empty takes its front. -/
theorem registerIteration_cons (s : DetectorThreads Mat) {frame : Mat} {rest : List Mat}
    (hqueue : s.detector.registerQueue = frame :: rest) :
    ∃ t, detectorStep V detectMultiScale observers users s .registerIteration = some t ∧
      t.popped = s.popped ++ [frame] ∧ t.detector.registerQueue = rest := by
  have hpop : s.detector.popRegister =
      some (frame, { s.detector with registerQueue := rest }) := by
    simp only [Detector.popRegister, hqueue]
  refine ⟨_, by simp only [detectorStep, hpop]; rfl, rfl, rfl⟩

theorem registerIteration_nil (s : DetectorThreads Mat) (hqueue : s.detector.registerQueue = []) :
    detectorStep V detectMultiScale observers users s .registerIteration = some s := by
  have hpop : s.detector.popRegister = none := by simp only [Detector.popRegister, hqueue]
  simp only [detectorStep, hpop]

/-- Iterations alone, as many as there are frames in the queue or more, take all of them. -/
theorem exec_registerIterations (n : Nat) (s : DetectorThreads Mat)
    (hn : s.detector.registerQueue.length ≤ n) :
    ∃ t, exec (detectorStep V detectMultiScale observers users) s
        (List.replicate n .registerIteration) = some t ∧
      t.popped = s.popped ++ s.detector.registerQueue ∧ t.detector.registerQueue = [] := by
  induction n generalizing s with
  | zero =>
      have hnil : s.detector.registerQueue = [] := List.eq_nil_of_length_eq_zero (by omega)
      refine ⟨s, rfl, ?_, hnil⟩
      rw [hnil, List.append_nil]
  | succ n ih =>
      cases hqueue : s.detector.registerQueue with
      | nil =>
          obtain ⟨t, ht, hpopped, hempty⟩ := ih s (by rw [hqueue]; exact Nat.zero_le n)
          rw [hqueue] at hpopped
          refine ⟨t, ?_, hpopped, hempty⟩
          rw [List.replicate_succ, exec, registerIteration_nil s hqueue]
          exact ht
      | cons frame rest =>
          obtain ⟨u, hu, hpopped, hrest⟩ := registerIteration_cons s hqueue
          have hle : u.detector.registerQueue.length ≤ n := by
            rw [hrest]
            rw [hqueue] at hn
            exact Nat.le_of_succ_le_succ hn
          obtain ⟨t, ht, hpopped', hempty⟩ := ih u hle
          refine ⟨t, ?_, ?_, hempty⟩
          · rw [List.replicate_succ, exec, hu]
            exact ht
          · rw [hpopped', hpopped, hrest, List.append_assoc]
            rfl

end CatchUp

/-- **Catching up.** From every reachable state, as many iterations of the register thread as there
are frames in its queue, with nothing else in between, leave the queue empty: all frames requested so
far have been taken, and the features of those with a face are stored. -/
theorem register_thread_catches_up {es : List (DetectorEvent Mat)} {s : DetectorThreads Mat}
    (h : Run (detectorStep V detectMultiScale observers users) {} es s) (n : Nat)
    (hn : s.detector.registerQueue.length ≤ n) :
    ∃ t, Run (detectorStep V detectMultiScale observers users) {}
        (es ++ List.replicate n .registerIteration) t ∧
      t.detector.registerQueue = [] ∧
      t.popped.map some = requestedFrames (es.filterMap DetectorEvent.forRegister) ∧
      t.features.featuresVec =
        (s.popped ++ s.detector.registerQueue).filterMap (featureOf V) := by
  obtain ⟨t, ht, hpopped, hempty⟩ := exec_registerIterations (V := V) n s hn
  have hrun := h.append (run_iff_exec.2 ht)
  refine ⟨t, hrun, hempty, ?_, ?_⟩
  · rw [hpopped]
    exact (threadsInvariant_run h).register.frames
  · rw [(threadsInvariant_run hrun).stored, hpopped]

theorem register_thread_catches_up_two :
    ∃ t, Run (detectorStep sampleVision (fun _ => []) [7] []) {}
        ([.needRegisterFace {}, .onFrameCaptured 2, .needRegisterFace {}, .onFrameCaptured 3] ++
          List.replicate 2 .registerIteration) t ∧
      t.detector.registerQueue = [] ∧
      t.popped.map some = requestedFrames
        ([DetectorEvent.needRegisterFace {}, .onFrameCaptured 2, .needRegisterFace {},
          .onFrameCaptured 3].filterMap DetectorEvent.forRegister) ∧
      t.features.featuresVec = [2, 3].filterMap (featureOf sampleVision) := by
  have hrun : Run (detectorStep sampleVision (fun _ => []) [7] []) {}
      [.needRegisterFace {}, .onFrameCaptured 2, .needRegisterFace {}, .onFrameCaptured 3] _ :=
    .snoc (.snoc (.snoc (.snoc .nil rfl) rfl) rfl) rfl
  exact register_thread_catches_up _ _ _ _ hrun 2 (by decide)

end ArmFaceID.Server
