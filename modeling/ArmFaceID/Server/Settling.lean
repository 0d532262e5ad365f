import ArmFaceID.Library.Settling
import ArmFaceID.Server.BadRows
import ArmFaceID.Server.DetectorThreads
import ArmFaceID.Server.Program

/-!
# The program at rest

When nothing comes from outside, what is left to do is in the two queues of the detector and in the
window's event queue. The two threads and the window can always finish it, and cannot go on longer
than there is something queued (`program_settles`). However their steps interleave, the window greets
the same people in the same order, says the same about registrations in the same order, and leaves
the register button in the same state (`settled_messages`).
-/

set_option autoImplicit false

namespace ArmFaceID.Server

open ArmFaceID.Library

variable {Mat QImage : Type} (V : Vision Mat QImage) (detectMultiScale : Mat → List Rect)

/-! ## What is queued -/

/-- A step of the program's own: of the worker, of the register thread, of the window. -/
def ProgramEvent.internal : ProgramEvent Mat → Bool
  | .workerIteration => true
  | .registerIteration => true
  | .deliver => true
  | _ => false

/-- A step of the program's own that finds something queued. -/
def Program.works (s : Program V) : ProgramEvent Mat → Bool
  | .workerIteration => !s.detector.frameQueue.isEmpty
  | .registerIteration => !s.detector.registerQueue.isEmpty
  | .deliver => !s.signals.isEmpty
  | _ => false

/-- How many steps the queues are good for: a frame for an iteration and the delivery of a signal. -/
def Program.queued (s : Program V) : Nat :=
  2 * s.detector.frameQueue.length + 2 * s.detector.registerQueue.length + s.signals.length

/-- The user recognised in a frame, if recognition is on and there is a face. -/
def recognizedAt (users : List User) (p : Mat × Bool) : Option User :=
  match detectFace detectMultiScale p.1 with
  | [] => none
  | _ :: _ => if p.2 = true then firstBest (similarityTo V p.1) compareThreshold users else none

/-- The ids of the recognitions signalled. -/
def recognitionIds (signals : List GuiSignal) : List Int :=
  signals.filterMap fun
    | .faceRecognized id => some id
    | .faceRegistered _ => none

/-- The ids of the registrations signalled. -/
def registrationIds (signals : List GuiSignal) : List Int :=
  signals.filterMap fun
    | .faceRecognized _ => none
    | .faceRegistered id => some id

/-- The recognitions still to be answered: those signalled, then those of the frames queued. -/
def Program.owedRecognitions (s : Program V) : List Int :=
  recognitionIds s.signals ++ s.detector.frameQueue.filterMap fun frame =>
    (recognizedAt V detectMultiScale s.server.db.users (frame, s.detector.needRecognize)).map User.id

/-- The registrations still to be answered: those signalled, then those of the frames queued that
have a face. -/
def Program.owedRegistrations (s : Program V) : List Int :=
  registrationIds s.signals ++ s.detector.registerQueue.filterMap fun frame =>
    (featureOf V frame).map fun _ => kFaceAlreadyExisted

/-- The recognition a message answers. -/
def recognitionAnswer : ProgramMessage → Option (Int × BarMessage)
  | .answered (.faceRecognized id) message => some (id, message)
  | _ => none

/-- The registration a message answers. -/
def registrationAnswer : ProgramMessage → Option (Int × BarMessage)
  | .answered (.faceRegistered id) message => some (id, message)
  | _ => none

/-! ## The program's own steps -/

section Steps

variable {V detectMultiScale} {s t : Program V} {e : ProgramEvent Mat} {users : List User}

theorem guiSignals_frameCalls (p : Mat × Bool) :
    guiSignals (frameCalls V detectMultiScale [elaGui] users p) =
      ((recognizedAt V detectMultiScale users p).map fun u =>
        GuiSignal.faceRecognized u.id).toList := by
  rw [frameCalls, recognizedAt]
  cases detectFace detectMultiScale p.1 with
  | nil => rfl
  | cons face rest =>
      by_cases hneed : p.2 = true
      · simp only [if_pos hneed]
        cases firstBest (similarityTo V p.1) compareThreshold users with
        | none => rfl
        | some u => rfl
      · simp only [if_neg hneed]
        rfl

theorem guiSignals_registerCalls (frame : Mat) :
    guiSignals (registerCalls V [elaGui] frame) =
      ((featureOf V frame).map fun _ => GuiSignal.faceRegistered kFaceAlreadyExisted).toList := by
  rw [registerCalls]
  cases featureOf V frame with
  | none => rfl
  | some features => rfl

/-- An iteration of the worker. -/
theorem programStep_worker (ht : programStep V detectMultiScale s .workerIteration = some t) :
    (s.detector.frameQueue = [] ∧ t = s) ∨
      ∃ frame detector, s.detector.popFrame = some (frame, detector) ∧
        t = Program.notify V { s with detector := detector }
          (frameCalls V detectMultiScale [elaGui] s.server.db.users
            (frame, s.detector.needRecognize)) := by
  simp only [programStep] at ht
  split at ht
  · next hpop =>
      cases ht
      refine Or.inl ⟨?_, rfl⟩
      simp only [Detector.popFrame] at hpop
      split at hpop
      · next hqueue => exact hqueue
      · cases hpop
  · next frame detector hpop =>
      split at ht
      · next calls hbody =>
          cases ht
          obtain ⟨-, -, hneed⟩ := Detector.popFrame_eq_some hpop
          refine Or.inr ⟨frame, detector, hpop, ?_⟩
          rw [workerBody_eq_ok hbody, hneed]
      · cases ht

/-- An iteration of the register thread. -/
theorem programStep_register (ht : programStep V detectMultiScale s .registerIteration = some t) :
    (s.detector.registerQueue = [] ∧ t = s) ∨
      ∃ frame detector, s.detector.popRegister = some (frame, detector) ∧
        t = Program.notify V
          { s with
            detector := detector
            features := (registerFeature V [elaGui] s.features frame).store }
          (registerCalls V [elaGui] frame) := by
  simp only [programStep] at ht
  split at ht
  · next hpop =>
      cases ht
      refine Or.inl ⟨?_, rfl⟩
      simp only [Detector.popRegister] at hpop
      split at hpop
      · next hqueue => exact hqueue
      · cases hpop
  · next frame detector hpop =>
      cases ht
      refine Or.inr ⟨frame, detector, hpop, ?_⟩
      rw [(registerFeature_eq V [elaGui] s.features frame).1]

/-- A delivery. A registration enables the button. -/
theorem programStep_deliver (ht : programStep V detectMultiScale s .deliver = some t) :
    ∃ signal, s.signals = signal :: t.signals ∧ t.detector = s.detector ∧ t.server = s.server ∧
      t.features = s.features ∧
      t.buttonEnabled = (s.buttonEnabled || !(registrationIds [signal]).isEmpty) := by
  simp only [programStep] at ht
  split at ht
  · cases ht
  · next id rest hsignals =>
      cases ht
      exact ⟨.faceRegistered id, hsignals, rfl, rfl, rfl, (Bool.or_true _).symm⟩
  · next id rest hsignals =>
      cases ht
      exact ⟨.faceRecognized id, hsignals, rfl, rfl, rfl, (Bool.or_false _).symm⟩

variable (detectMultiScale) in
/-- With photos that can be decoded, the worker ends every iteration. -/
theorem workerBody_returns (laws : DecodingLaws V) (hphotos : ∀ u ∈ users, u.faceImgBytes ≠ [])
    (needRecognize : Bool) (curFrame : Mat) : ∃ calls,
      workerBody V detectMultiScale [elaGui] users needRecognize curFrame = .ok calls := by
  rw [workerBody]
  cases detectFace detectMultiScale curFrame with
  | nil => exact ⟨_, rfl⟩
  | cons face rest =>
      cases needRecognize with
      | false => exact ⟨_, rfl⟩
      | true =>
          have hsim : Similarities V users curFrame (similarityTo V curFrame) := fun u hu =>
            (compareUser_of_ne_nil laws (hphotos u hu)).1
          simp only [recognizeFaceFromDb_eq_firstBest [elaGui] hsim]
          exact ⟨_, rfl⟩

theorem internal_cases (hinternal : e.internal = true) :
    e = .workerIteration ∨ e = .registerIteration ∨ e = .deliver := by
  cases e with
  | workerIteration => exact Or.inl rfl
  | registerIteration => exact Or.inr (Or.inl rfl)
  | deliver => exact Or.inr (Or.inr rfl)
  | click nickName email => cases hinternal
  | toggle toggled => cases hinternal
  | onFrameCaptured frame => cases hinternal
  | rpcRecognizeFace request => cases hinternal
  | rpcRegister request answer => cases hinternal
  | refresh => cases hinternal
  | deleteSelected selectedIndexes => cases hinternal

/-- The program's own steps leave the stores alone. -/
theorem programStep_internal_server (hinternal : e.internal = true)
    (ht : programStep V detectMultiScale s e = some t) : t.server = s.server := by
  rcases internal_cases hinternal with rfl | rfl | rfl
  · rcases programStep_worker ht with ⟨-, rfl⟩ | ⟨frame, detector, -, rfl⟩
    · rfl
    · rfl
  · rcases programStep_register ht with ⟨-, rfl⟩ | ⟨frame, detector, -, rfl⟩
    · rfl
    · rfl
  · obtain ⟨signal, -, -, hserver, -⟩ := programStep_deliver ht
    exact hserver

theorem internal_of_works (hworks : s.works V e = true) : e.internal = true := by
  cases e with
  | workerIteration => rfl
  | registerIteration => rfl
  | deliver => rfl
  | click nickName email => cases hworks
  | toggle toggled => cases hworks
  | onFrameCaptured frame => cases hworks
  | rpcRecognizeFace request => cases hworks
  | rpcRegister request answer => cases hworks
  | refresh => cases hworks
  | deleteSelected selectedIndexes => cases hworks

/-- A step that finds something queued leaves less. -/
theorem queued_lt_of_works (hworks : s.works V e = true)
    (ht : programStep V detectMultiScale s e = some t) : t.queued V < s.queued V := by
  have hinternal := internal_of_works hworks
  rcases internal_cases hinternal with rfl | rfl | rfl
  · rcases programStep_worker ht with ⟨hqueue, -⟩ | ⟨frame, detector, hpop, rfl⟩
    · simp only [Program.works, hqueue] at hworks
      cases hworks
    · obtain ⟨hframes, hregister, -⟩ := Detector.popFrame_eq_some hpop
      have hsignal : (guiSignals (frameCalls V detectMultiScale [elaGui] s.server.db.users
          (frame, s.detector.needRecognize))).length ≤ 1 := by
        rw [guiSignals_frameCalls]
        exact Option.length_toList_le
      simp only [Program.queued, Program.notify, hframes, hregister, List.length_append,
        List.length_cons]
      omega
  · rcases programStep_register ht with ⟨hqueue, -⟩ | ⟨frame, detector, hpop, rfl⟩
    · simp only [Program.works, hqueue] at hworks
      cases hworks
    · obtain ⟨hregister, -, hframes, -⟩ := Detector.popRegister_eq_some hpop
      have hsignal : (guiSignals (registerCalls V [elaGui] frame)).length ≤ 1 := by
        rw [guiSignals_registerCalls]
        exact Option.length_toList_le
      simp only [Program.queued, Program.notify, hframes, hregister, List.length_append,
        List.length_cons]
      omega
  · obtain ⟨signal, hsignals, hdetector, -, -⟩ := programStep_deliver ht
    simp only [Program.queued, hsignals, hdetector, List.length_cons]
    omega

/-- While something is queued there is a step to take. -/
theorem exists_works (laws : DecodingLaws V)
    (hphotos : ∀ u ∈ s.server.db.users, u.faceImgBytes ≠ []) (hqueued : 0 < s.queued V) :
    ∃ e t, s.works V e = true ∧ programStep V detectMultiScale s e = some t := by
  cases hframes : s.detector.frameQueue with
  | cons frame rest =>
      obtain ⟨calls, hcalls⟩ :=
        workerBody_returns detectMultiScale laws hphotos s.detector.needRecognize frame
      have hstep : ∃ t, programStep V detectMultiScale s .workerIteration = some t := by
        simp only [programStep, Detector.popFrame, hframes, hcalls]
        exact ⟨_, rfl⟩
      obtain ⟨t, ht⟩ := hstep
      refine ⟨.workerIteration, t, ?_, ht⟩
      simp only [Program.works, hframes]
      rfl
  | nil =>
      cases hregister : s.detector.registerQueue with
      | cons frame rest =>
          have hstep : ∃ t, programStep V detectMultiScale s .registerIteration = some t := by
            simp only [programStep, Detector.popRegister, hregister]
            exact ⟨_, rfl⟩
          obtain ⟨t, ht⟩ := hstep
          refine ⟨.registerIteration, t, ?_, ht⟩
          simp only [Program.works, hregister]
          rfl
      | nil =>
          cases hsignals : s.signals with
          | nil =>
              simp only [Program.queued, hframes, hregister, hsignals] at hqueued
              exact absurd hqueued (Nat.lt_irrefl 0)
          | cons signal rest =>
              have hstep : ∃ t, programStep V detectMultiScale s .deliver = some t := by
                cases signal with
                | faceRegistered id =>
                    simp only [programStep, hsignals]
                    exact ⟨_, rfl⟩
                | faceRecognized id =>
                    simp only [programStep, hsignals]
                    exact ⟨_, rfl⟩
              obtain ⟨t, ht⟩ := hstep
              refine ⟨.deliver, t, ?_, ht⟩
              simp only [Program.works, hsignals]
              rfl

variable (detectMultiScale) in
/-- The program's own work comes to an end. -/
theorem settles_program (laws : DecodingLaws V) :
    Settles (programStep V detectMultiScale) (fun s e => s.works V e = true)
      (fun s => ∀ u ∈ s.server.db.users, u.faceImgBytes ≠ []) (Program.queued V) where
  keeps s e t hphotos hworks ht := by
    rw [programStep_internal_server (internal_of_works hworks) ht]
    exact hphotos
  lowers s e t _ hworks ht := queued_lt_of_works hworks ht
  enabled s hphotos hqueued := exists_works laws hphotos hqueued

end Steps

/-! ## What is owed -/

section Owed

variable {V detectMultiScale} {s t : Program V} {e : ProgramEvent Mat} {users : List User}

theorem recognitionIds_append (signals signals' : List GuiSignal) :
    recognitionIds (signals ++ signals') = recognitionIds signals ++ recognitionIds signals' :=
  List.filterMap_append

theorem registrationIds_append (signals signals' : List GuiSignal) :
    registrationIds (signals ++ signals') = registrationIds signals ++ registrationIds signals' :=
  List.filterMap_append

/-- The worker signals the user recognised in its frame, and no registration. -/
theorem ids_frameCalls (p : Mat × Bool) :
    recognitionIds (guiSignals (frameCalls V detectMultiScale [elaGui] users p)) =
        ((recognizedAt V detectMultiScale users p).map User.id).toList ∧
      registrationIds (guiSignals (frameCalls V detectMultiScale [elaGui] users p)) = [] := by
  rw [guiSignals_frameCalls]
  cases recognizedAt V detectMultiScale users p with
  | none => exact ⟨rfl, rfl⟩
  | some u => exact ⟨rfl, rfl⟩

/-- The register thread signals a registration for a face, and no recognition. -/
theorem ids_registerCalls (frame : Mat) :
    recognitionIds (guiSignals (registerCalls V [elaGui] frame)) = [] ∧
      registrationIds (guiSignals (registerCalls V [elaGui] frame)) =
        ((featureOf V frame).map fun _ => kFaceAlreadyExisted).toList := by
  rw [guiSignals_registerCalls]
  cases featureOf V frame with
  | none => exact ⟨rfl, rfl⟩
  | some features => exact ⟨rfl, rfl⟩

theorem filterMap_cons_toList {α β : Type} (f : α → Option β) (a : α) (l : List α) :
    (a :: l).filterMap f = (f a).toList ++ l.filterMap f := by
  rw [List.filterMap_cons]
  cases f a with
  | none => rfl
  | some b => rfl

/-- An iteration turns what a frame is owed into what a signal is owed. -/
theorem owed_worker (ht : programStep V detectMultiScale s .workerIteration = some t) :
    t.owedRecognitions V detectMultiScale = s.owedRecognitions V detectMultiScale ∧
      t.owedRegistrations V = s.owedRegistrations V ∧ t.buttonEnabled = s.buttonEnabled := by
  rcases programStep_worker ht with ⟨-, rfl⟩ | ⟨frame, detector, hpop, rfl⟩
  · exact ⟨rfl, rfl, rfl⟩
  · obtain ⟨hframes, hregister, hneed⟩ := Detector.popFrame_eq_some hpop
    refine ⟨?_, ?_, rfl⟩
    · simp only [Program.owedRecognitions, Program.notify, hframes, hneed, recognitionIds_append,
        ids_frameCalls, filterMap_cons_toList, List.append_assoc]
    · simp only [Program.owedRegistrations, Program.notify, hregister, registrationIds_append,
        ids_frameCalls, List.append_nil]

theorem owed_register (ht : programStep V detectMultiScale s .registerIteration = some t) :
    t.owedRecognitions V detectMultiScale = s.owedRecognitions V detectMultiScale ∧
      t.owedRegistrations V = s.owedRegistrations V ∧ t.buttonEnabled = s.buttonEnabled := by
  rcases programStep_register ht with ⟨-, rfl⟩ | ⟨frame, detector, hpop, rfl⟩
  · exact ⟨rfl, rfl, rfl⟩
  · obtain ⟨hregister, -, hframes, -⟩ := Detector.popRegister_eq_some hpop
    have hneed := popRegister_needRecognize hpop
    refine ⟨?_, ?_, rfl⟩
    · simp only [Program.owedRecognitions, Program.notify, hframes, hneed, recognitionIds_append,
        ids_registerCalls, List.append_nil]
    · simp only [Program.owedRegistrations, Program.notify, hregister, registrationIds_append,
        ids_registerCalls, filterMap_cons_toList, List.append_assoc]

/-- A delivery pays what its signal is owed. -/
theorem owed_deliver (ht : programStep V detectMultiScale s .deliver = some t) :
    ∃ signal, programMessages V s ProgramEvent.deliver =
        [.answered signal (messageOf s.server.db.users signal)] ∧
      s.owedRecognitions V detectMultiScale =
        recognitionIds [signal] ++ t.owedRecognitions V detectMultiScale ∧
      s.owedRegistrations V = registrationIds [signal] ++ t.owedRegistrations V ∧
      t.buttonEnabled = (s.buttonEnabled || !(registrationIds [signal]).isEmpty) := by
  obtain ⟨signal, hsignals, hdetector, hserver, -, hbutton⟩ := programStep_deliver ht
  refine ⟨signal, ?_, ?_, ?_, hbutton⟩
  · simp only [programMessages, hsignals]
  · rw [Program.owedRecognitions, Program.owedRecognitions, hsignals, hdetector, hserver,
      ← List.append_assoc, ← recognitionIds_append]
    rfl
  · rw [Program.owedRegistrations, Program.owedRegistrations, hsignals, hdetector,
      ← List.append_assoc, ← registrationIds_append]
    rfl

/-- A step of the program's own puts out the front of the recognitions owed. -/
theorem pays_recognitions (hinternal : e.internal = true)
    (ht : programStep V detectMultiScale s e = some t) :
    (s.owedRecognitions V detectMultiScale).map
        (fun id => (id, faceRecognizedMessage s.server.db.users id)) =
      (programMessages V s e).filterMap recognitionAnswer ++
        (t.owedRecognitions V detectMultiScale).map
          (fun id => (id, faceRecognizedMessage t.server.db.users id)) := by
  rw [programStep_internal_server hinternal ht]
  rcases internal_cases hinternal with rfl | rfl | rfl
  · rw [(owed_worker ht).1]
    rfl
  · rw [(owed_register ht).1]
    rfl
  · obtain ⟨signal, hmessages, hrecognitions, -, -⟩ := owed_deliver ht
    rw [hmessages, hrecognitions, List.map_append]
    cases signal with
    | faceRegistered id => rfl
    | faceRecognized id => rfl

/-- And the front of the registrations owed. -/
theorem pays_registrations (hinternal : e.internal = true)
    (ht : programStep V detectMultiScale s e = some t) :
    (s.owedRegistrations V).map (fun id => (id, faceRegisteredMessage id)) =
      (programMessages V s e).filterMap registrationAnswer ++
        (t.owedRegistrations V).map (fun id => (id, faceRegisteredMessage id)) := by
  rcases internal_cases hinternal with rfl | rfl | rfl
  · rw [(owed_worker ht).2.1]
    rfl
  · rw [(owed_register ht).2.1]
    rfl
  · obtain ⟨signal, hmessages, -, hregistrations, -⟩ := owed_deliver ht
    rw [hmessages, hregistrations, List.map_append]
    cases signal with
    | faceRegistered id => rfl
    | faceRecognized id => rfl

/-- Whether the button is enabled, or will be once what is owed is paid. -/
theorem willEnable_internal (hinternal : e.internal = true)
    (ht : programStep V detectMultiScale s e = some t) :
    (t.buttonEnabled || !(t.owedRegistrations V).isEmpty) =
      (s.buttonEnabled || !(s.owedRegistrations V).isEmpty) := by
  rcases internal_cases hinternal with rfl | rfl | rfl
  · obtain ⟨-, hregistrations, hbutton⟩ := owed_worker ht
    rw [hregistrations, hbutton]
  · obtain ⟨-, hregistrations, hbutton⟩ := owed_register ht
    rw [hregistrations, hbutton]
  · obtain ⟨signal, -, -, hregistrations, hbutton⟩ := owed_deliver ht
    rw [hregistrations, hbutton]
    cases registrationIds [signal] with
    | nil => simp
    | cons id ids => simp

variable (detectMultiScale) in
/-- At rest nothing is owed. -/
theorem owed_of_rest (h : s.queued V = 0) :
    s.owedRecognitions V detectMultiScale = [] ∧ s.owedRegistrations V = [] := by
  have hempty : s.detector.frameQueue.length = 0 ∧ s.detector.registerQueue.length = 0 ∧
      s.signals.length = 0 := by
    rw [Program.queued] at h
    omega
  obtain ⟨hframes, hregister, hsignals⟩ := hempty
  rw [Program.owedRecognitions, Program.owedRegistrations, List.length_eq_zero_iff.1 hframes,
    List.length_eq_zero_iff.1 hregister, List.length_eq_zero_iff.1 hsignals]
  exact ⟨rfl, rfl⟩

end Owed

/-- A face is found in image 2 only. -/
def detectTwo : Nat → List Rect := fun frame => if frame = 2 then [{}] else []

/-- Ann is to be greeted; three frames are queued, two of them showing her, and one to register. -/
def busyProgram : Program sampleVision where
  server := .started sampleVision oneRow
  detector := { needRecognize := true, frameQueue := [2, 0, 2], registerQueue := [2] }
  buttonEnabled := false
  signals := [.faceRecognized 1]

/-- The threads and the window in turn. -/
def takingTurns : List (ProgramEvent Nat) :=
  [.workerIteration, .registerIteration, .deliver, .workerIteration, .deliver, .workerIteration,
    .deliver, .deliver]

variable {V detectMultiScale} in
/-- **Whatever the schedule.** When the program's own steps, in any order, have brought it to rest,
the recognitions answered are those that were owed, in their order, each by the message that the
cache gives; so are the registrations answered; and the button is enabled if it was, or if a
registration was owed. -/
theorem settled_messages {s t : Program V} {more : List (ProgramEvent Mat)}
    (hrun : GuardedRun (programStep V detectMultiScale) (fun _ e => e.internal = true) s more t)
    (hrest : t.queued V = 0) :
    (outputs (programStep V detectMultiScale) (programMessages V) s more).filterMap
        recognitionAnswer =
        (s.owedRecognitions V detectMultiScale).map
          (fun id => (id, faceRecognizedMessage s.server.db.users id)) ∧
      (outputs (programStep V detectMultiScale) (programMessages V) s more).filterMap
        registrationAnswer =
        (s.owedRegistrations V).map (fun id => (id, faceRegisteredMessage id)) ∧
      t.buttonEnabled = (s.buttonEnabled || !(s.owedRegistrations V).isEmpty) := by
  obtain ⟨hrecognitions, hregistrations⟩ := owed_of_rest detectMultiScale hrest
  refine ⟨?_, ?_, ?_⟩
  · have hpaid := hrun.pays (programMessages V) recognitionAnswer
      (fun u => (u.owedRecognitions V detectMultiScale).map
        (fun id => (id, faceRecognizedMessage u.server.db.users id)))
      fun _ _ _ => pays_recognitions
    rw [hrecognitions, List.map_nil, List.append_nil] at hpaid
    exact hpaid
  · have hpaid := hrun.pays (programMessages V) registrationAnswer
      (fun u => (u.owedRegistrations V).map (fun id => (id, faceRegisteredMessage id)))
      fun _ _ _ => pays_registrations
    rw [hregistrations, List.map_nil, List.append_nil] at hpaid
    exact hpaid
  · have hbutton := hrun.invariant (I := fun u => (u.buttonEnabled ||
        !(u.owedRegistrations V).isEmpty) = (s.buttonEnabled || !(s.owedRegistrations V).isEmpty))
      rfl fun _ _ _ hsame hinternal ht => (willEnable_internal hinternal ht).trans hsame
    rw [hregistrations] at hbutton
    rw [← hbutton]
    exact (Bool.or_false _).symm

theorem settled_messages_busy :
    (outputs (programStep sampleVision detectTwo) (programMessages sampleVision) busyProgram
        takingTurns).filterMap recognitionAnswer =
        [(1, greeting "Ann"), (1, greeting "Ann"), (1, greeting "Ann")] ∧
      ∃ t, GuardedRun (programStep sampleVision detectTwo) (fun _ e => e.internal = true)
          busyProgram takingTurns t ∧
        t.buttonEnabled = true := by
  have hcomputed : (exec (guardedStep (programStep sampleVision detectTwo)
      (fun _ e => e.internal = true)) busyProgram takingTurns).map
      (fun t => t.queued sampleVision) = some 0 := by decide +kernel
  obtain ⟨t, ht, hrest⟩ := Option.map_eq_some_iff.1 hcomputed
  have hrun := guardedRun_iff_exec.2 ht
  obtain ⟨hgreeted, -, hbutton⟩ := settled_messages hrun hrest
  have howed : (busyProgram.owedRecognitions sampleVision detectTwo).map
      (fun id => (id, faceRecognizedMessage busyProgram.server.db.users id)) =
      [(1, greeting "Ann"), (1, greeting "Ann"), (1, greeting "Ann")] := by decide +kernel
  have hregistered : (busyProgram.buttonEnabled ||
      !(busyProgram.owedRegistrations sampleVision).isEmpty) = true := by decide +kernel
  exact ⟨hgreeted.trans howed, t, hrun, hbutton.trans hregistered⟩

end ArmFaceID.Server
