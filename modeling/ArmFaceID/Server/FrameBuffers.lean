import ArmFaceID.Server.Detector
import ArmFaceID.Library.Machine

/-!
# The pixels behind a queued frame

Copying a `cv::Mat` copies a header and shares the pixel buffer. The camera's loop reuses one `frame`
for all captures (`utils/face_camera.cpp`), and `OnFrameCaptured` queues copies of it. So a capture
of the same size and type overwrites the pixels of every frame still waiting or being looked at.
What is read for a frame are its own pixels as long as no capture finds such a frame
(`pixels_kept`).
-/

set_option autoImplicit false

namespace ArmFaceID.Server

open ArmFaceID.Library

universe u v

variable {Picture : Type u} {Geometry : Type v}

/-- A `cv::Mat` that the detector was given: its buffer, and the picture captured when it was
queued. -/
structure MatHeader (Picture : Type u) where
  buffer : Nat
  captured : Picture

/-- Where the camera thread is: before `cap_ >> frame`, or after it and before
`OnFrameCaptured`. -/
inductive CameraPhase (Picture : Type u) where
  | grabbing
  | notifying (captured : Picture)

/-- Where the worker thread is in its loop. -/
inductive WorkerPhase (Picture : Type u) where
  | waiting
  | detecting (curFrame : MatHeader Picture)
  | recognizing (curFrame : MatHeader Picture)

/-- The frame whose pixels the worker thread may still read. -/
def WorkerPhase.current : WorkerPhase Picture → Option (MatHeader Picture)
  | .waiting => none
  | .detecting curFrame => some curFrame
  | .recognizing curFrame => some curFrame

/-- The pixel buffers by number, the camera's `frame`, the threads, and a record of what was read
for which frame. `registering` is the frame `RegisterFeature` is working on. -/
structure FrameBuffers (Picture : Type u) where
  buffers : List Picture := []
  frame : Option Nat := none
  camera : CameraPhase Picture := .grabbing
  detector : Detector (MatHeader Picture) := {}
  worker : WorkerPhase Picture := .waiting
  registering : Option (MatHeader Picture) := none
  reads : List (MatHeader Picture × Option Picture) := []

/-- The camera's steps, the calls of the GUI, and the steps of the two threads. `workerRead` and
`registerRead` are one access to the pixels each; `found` is whether the classifier found a face. -/
inductive BufferEvent (Picture : Type u) where
  | grab (picture : Picture)
  | grabFailed
  | onFrameCaptured
  | needRegisterFace (user : User)
  | needRecognizeFace (toggled : Bool)
  | workerTake
  | workerRead
  | workerDetected (found : Bool)
  | workerDone
  | registerTake
  | registerRead
  | registerDone

/-- The pixels read now through a header. -/
def FrameBuffers.read (s : FrameBuffers Picture) (header : MatHeader Picture) :
    FrameBuffers Picture :=
  { s with reads := s.reads ++ [(header, s.buffers[header.buffer]?)] }

section Machine

variable (geometry : Picture → Geometry) [DecidableEq Geometry]

/-- The buffer that `cap_ >> frame` overwrites: the one `frame` holds, if size and type match. -/
def FrameBuffers.overwritten (s : FrameBuffers Picture) (picture : Picture) : Option Nat :=
  s.frame.filter fun b => decide (s.buffers[b]?.map geometry = some (geometry picture))

/-- `cap_ >> frame`: in place, or into a new buffer. -/
def FrameBuffers.grabInto (s : FrameBuffers Picture) (picture : Picture) : FrameBuffers Picture :=
  match s.overwritten geometry picture with
  | some b => { s with buffers := s.buffers.set b picture }
  | none => { s with buffers := s.buffers ++ [picture], frame := some s.buffers.length }

/-- One step. -/
def bufferStep (s : FrameBuffers Picture) : BufferEvent Picture → Option (FrameBuffers Picture)
  | .grab picture =>
      match s.camera with
      | .grabbing => some { s.grabInto geometry picture with camera := .notifying picture }
      | .notifying _ => none
  | .grabFailed =>
      -- `frame` is released and empty, so the loop goes on without a notification
      match s.camera with
      | .grabbing => some { s with frame := none }
      | .notifying _ => none
  | .onFrameCaptured =>
      match s.camera, s.frame with
      | .notifying captured, some b =>
          some { s with
            camera := .grabbing
            detector := s.detector.onFrameCaptured ⟨b, captured⟩ }
      | _, _ => none
  | .needRegisterFace user => some { s with detector := s.detector.needRegisterFace user }
  | .needRecognizeFace toggled => some { s with detector := s.detector.needRecognizeFace toggled }
  | .workerTake =>
      match s.worker with
      | .waiting =>
          match s.detector.popFrame with
          | none => some s
          | some (header, detector) =>
              some { s with detector := detector, worker := .detecting header }
      | _ => none
  | .workerRead => s.worker.current.map s.read
  | .workerDetected found =>
      match s.worker with
      | .detecting header =>
          some { s with
            worker := if found ∧ s.detector.needRecognize then .recognizing header else .waiting }
      | _ => none
  | .workerDone =>
      match s.worker with
      | .recognizing _ => some { s with worker := .waiting }
      | _ => none
  | .registerTake =>
      match s.registering with
      | some _ => none
      | none =>
          match s.detector.popRegister with
          | none => some s
          | some (header, detector) =>
              some { s with detector := detector, registering := some header }
  | .registerRead => s.registering.map s.read
  | .registerDone => s.registering.map fun _ => { s with registering := none }

/-! ## Whose pixels are read -/

/-- Everything read for a frame were the pixels of the capture that queued it. -/
def PixelsKept (s : FrameBuffers Picture) : Prop :=
  ∀ r ∈ s.reads, r.2 = some r.1.captured

/-- A frame whose pixels are still to be read: queued, or held by a thread. -/
def Held (s : FrameBuffers Picture) (header : MatHeader Picture) : Prop :=
  header ∈ s.detector.frameQueue ∨ header ∈ s.detector.registerQueue ∨
    s.worker.current = some header ∨ s.registering = some header

/-- If the step is a capture, the frames held in the buffer it overwrites show the same picture. -/
def SparesHeld (s : FrameBuffers Picture) : BufferEvent Picture → Prop
  | .grab picture =>
      ∀ b, s.overwritten geometry picture = some b →
        ∀ header, Held s header → header.buffer = b → header.captured = picture
  | _ => True

/-- Frames held still have their pixels, and so has the frame the camera is about to hand over. -/
structure BufferInvariant (s : FrameBuffers Picture) : Prop where
  held : ∀ header, Held s header → s.buffers[header.buffer]? = some header.captured
  handedOver : ∀ captured, s.camera = .notifying captured →
    ∀ b, s.frame = some b → s.buffers[b]? = some captured
  kept : PixelsKept s

theorem bufferInvariant_init : BufferInvariant ({} : FrameBuffers Picture) := by
  refine ⟨?_, ?_, ?_⟩
  · rintro header (h | h | h | h)
    · cases h
    · cases h
    · cases h
    · cases h
  · intro captured h
    cases h
  · intro r hr
    cases hr

variable {geometry} {s t : FrameBuffers Picture} {e : BufferEvent Picture}

theorem overwritten_eq_some {picture : Picture} {b : Nat}
    (h : s.overwritten geometry picture = some b) : s.frame = some b ∧ b < s.buffers.length := by
  obtain ⟨hframe, hgeometry⟩ := Option.filter_eq_some_iff.1 h
  refine ⟨hframe, ?_⟩
  rw [decide_eq_true_eq, Option.map_eq_some_iff] at hgeometry
  obtain ⟨old, hold, -⟩ := hgeometry
  exact (List.getElem?_eq_some_iff.1 hold).1

/-- A step that leaves the buffers, the camera and the record alone keeps the invariant if it holds
on to no new frame. -/
theorem BufferInvariant.of_held (hinv : BufferInvariant s) (hbuffers : t.buffers = s.buffers)
    (hframe : t.frame = s.frame) (hcamera : t.camera = s.camera) (hreads : t.reads = s.reads)
    (hheld : ∀ header, Held t header → Held s header) : BufferInvariant t := by
  refine ⟨?_, ?_, ?_⟩
  · intro header h
    rw [hbuffers]
    exact hinv.held header (hheld header h)
  · rw [hbuffers, hframe, hcamera]
    exact hinv.handedOver
  · rw [PixelsKept, hreads]
    exact hinv.kept

/-- Reading through a header that is held gives its own pixels. -/
theorem BufferInvariant.read (hinv : BufferInvariant s) {header : MatHeader Picture}
    (hheld : Held s header) : BufferInvariant (s.read header) := by
  refine ⟨hinv.held, hinv.handedOver, ?_⟩
  intro r hr
  rcases List.mem_append.1 hr with hr | hr
  · exact hinv.kept r hr
  · rw [List.mem_singleton.1 hr]
    exact hinv.held header hheld

/-- A capture under the guard changes no pixels of a frame that is held. -/
theorem BufferInvariant.grab (hinv : BufferInvariant s) {picture : Picture}
    (hguard : SparesHeld geometry s (.grab picture)) :
    BufferInvariant { s.grabInto geometry picture with camera := .notifying picture } := by
  cases hover : s.overwritten geometry picture with
  | some b =>
      -- in place: a held frame in this buffer shows the same picture
      obtain ⟨hframe, hlt⟩ := overwritten_eq_some hover
      have hgrab : s.grabInto geometry picture = { s with buffers := s.buffers.set b picture } := by
        simp only [FrameBuffers.grabInto, hover]
      rw [hgrab]
      refine ⟨?_, ?_, hinv.kept⟩
      · intro header hheld
        show (s.buffers.set b picture)[header.buffer]? = some header.captured
        by_cases hsame : header.buffer = b
        · rw [hguard b hover header hheld hsame, hsame, List.getElem?_set_self hlt]
        · rw [List.getElem?_set_ne (Ne.symm hsame)]
          exact hinv.held header hheld
      · intro captured hcaptured b' hb'
        cases hcaptured
        rw [hframe] at hb'
        cases hb'
        exact List.getElem?_set_self hlt
  | none =>
      -- a new buffer, which no header has
      have hgrab : s.grabInto geometry picture =
          { s with buffers := s.buffers ++ [picture], frame := some s.buffers.length } := by
        simp only [FrameBuffers.grabInto, hover]
      rw [hgrab]
      refine ⟨?_, ?_, hinv.kept⟩
      · intro header hheld
        have hold := hinv.held header hheld
        obtain ⟨hlt, -⟩ := List.getElem?_eq_some_iff.1 hold
        show (s.buffers ++ [picture])[header.buffer]? = some header.captured
        rw [List.getElem?_append_left hlt]
        exact hold
      · intro captured hcaptured b' hb'
        cases hcaptured
        cases hb'
        exact List.getElem?_concat_length

/-- The frame handed over has the pixels just captured. -/
theorem BufferInvariant.notify (hinv : BufferInvariant s) {captured : Picture} {b : Nat}
    (hcamera : s.camera = .notifying captured) (hframe : s.frame = some b) :
    BufferInvariant { s with
      camera := .grabbing
      detector := s.detector.onFrameCaptured ⟨b, captured⟩ } := by
  have hnew := hinv.handedOver captured hcamera b hframe
  refine ⟨?_, ?_, hinv.kept⟩
  · rintro header (h | h | h | h)
    · rw [Detector.onFrameCaptured_frameQueue] at h
      rcases List.mem_append.1 h with h | h
      · exact hinv.held header (Or.inl h)
      · rw [List.mem_singleton.1 h]
        exact hnew
    · rw [Detector.onFrameCaptured_registerQueue] at h
      rcases List.mem_append.1 h with h | h
      · exact hinv.held header (Or.inr (Or.inl h))
      · split at h
        · rw [List.mem_singleton.1 h]
          exact hnew
        · cases h
    · exact hinv.held header (Or.inr (Or.inr (Or.inl h)))
    · exact hinv.held header (Or.inr (Or.inr (Or.inr h)))
  · intro captured' h
    cases h

section Held

variable {header held : MatHeader Picture} {detector : Detector (MatHeader Picture)}

/-- The frame taken moves from the queue to the worker. -/
theorem held_of_workerTake (hpop : s.detector.popFrame = some (header, detector))
    (h : Held { s with detector := detector, worker := .detecting header } held) : Held s held := by
  obtain ⟨hqueue, hregister, -⟩ := Detector.popFrame_eq_some hpop
  rcases h with h | h | h | h
  · exact Or.inl (by rw [hqueue]; exact List.mem_cons_of_mem _ h)
  · exact Or.inr (Or.inl (by rw [← hregister]; exact h))
  · cases h
    exact Or.inl (by rw [hqueue]; exact List.mem_cons_self)
  · exact Or.inr (Or.inr (Or.inr h))

/-- The frame taken moves from the queue to the register thread. -/
theorem held_of_registerTake (hpop : s.detector.popRegister = some (header, detector))
    (h : Held { s with detector := detector, registering := some header } held) : Held s held := by
  obtain ⟨hqueue, -, hframes, -⟩ := Detector.popRegister_eq_some hpop
  rcases h with h | h | h | h
  · exact Or.inl (by rw [← hframes]; exact h)
  · exact Or.inr (Or.inl (by rw [hqueue]; exact List.mem_cons_of_mem _ h))
  · exact Or.inr (Or.inr (Or.inl h))
  · cases h
    exact Or.inr (Or.inl (by rw [hqueue]; exact List.mem_cons_self))

/-- A worker that goes on with its frame or drops it holds no other. -/
theorem held_of_worker {worker : WorkerPhase Picture}
    (hworker : worker.current = some held → s.worker.current = some held)
    (h : Held { s with worker := worker } held) : Held s held := by
  rcases h with h | h | h | h
  · exact Or.inl h
  · exact Or.inr (Or.inl h)
  · exact Or.inr (Or.inr (Or.inl (hworker h)))
  · exact Or.inr (Or.inr (Or.inr h))

theorem held_of_registerDone (h : Held { s with registering := none } held) : Held s held := by
  rcases h with h | h | h | h
  · exact Or.inl h
  · exact Or.inr (Or.inl h)
  · exact Or.inr (Or.inr (Or.inl h))
  · cases h

end Held

/-- What one step does to the pixels of the frames held. -/
theorem bufferInvariant_step (hinv : BufferInvariant s) (hguard : SparesHeld geometry s e)
    (ht : bufferStep geometry s e = some t) : BufferInvariant t := by
  cases e with
  | grab picture =>
      simp only [bufferStep] at ht
      split at ht
      · cases ht
        exact hinv.grab hguard
      · cases ht
  | grabFailed =>
      simp only [bufferStep] at ht
      split at ht
      · next hcamera =>
          cases ht
          refine ⟨hinv.held, ?_, hinv.kept⟩
          intro captured _ b hb
          cases hb
      · cases ht
  | onFrameCaptured =>
      simp only [bufferStep] at ht
      split at ht
      · next captured b hcamera hframe =>
          cases ht
          exact hinv.notify hcamera hframe
      · cases ht
  | needRegisterFace user =>
      cases ht
      exact hinv.of_held rfl rfl rfl rfl fun _ h => h
  | needRecognizeFace toggled =>
      cases ht
      exact hinv.of_held rfl rfl rfl rfl fun _ h => h
  | workerTake =>
      simp only [bufferStep] at ht
      split at ht
      · split at ht
        · cases ht
          exact hinv
        · next header detector hpop =>
            cases ht
            exact hinv.of_held rfl rfl rfl rfl fun _ h => held_of_workerTake hpop h
      · cases ht
  | workerRead =>
      obtain ⟨header, hcurrent, rfl⟩ := Option.map_eq_some_iff.1 ht
      exact hinv.read (Or.inr (Or.inr (Or.inl hcurrent)))
  | workerDetected found =>
      simp only [bufferStep] at ht
      split at ht
      · next header hworker =>
          cases ht
          refine hinv.of_held rfl rfl rfl rfl fun held => held_of_worker ?_
          intro h
          rw [hworker]
          split at h
          · exact h
          · cases h
      · cases ht
  | workerDone =>
      simp only [bufferStep] at ht
      split at ht
      · cases ht
        exact hinv.of_held rfl rfl rfl rfl fun held => held_of_worker fun h => nomatch h
      · cases ht
  | registerTake =>
      simp only [bufferStep] at ht
      split at ht
      · cases ht
      · split at ht
        · cases ht
          exact hinv
        · next header detector hpop =>
            cases ht
            exact hinv.of_held rfl rfl rfl rfl fun _ h => held_of_registerTake hpop h
  | registerRead =>
      obtain ⟨header, hcurrent, rfl⟩ := Option.map_eq_some_iff.1 ht
      exact hinv.read (Or.inr (Or.inr (Or.inr hcurrent)))
  | registerDone =>
      obtain ⟨header, -, rfl⟩ := Option.map_eq_some_iff.1 ht
      exact hinv.of_held rfl rfl rfl rfl fun _ h => held_of_registerDone h

/-- **A queued frame keeps its pixels** along every run in which a capture overwrites no buffer of a
frame still to be read, unless with the same picture. -/
theorem pixels_kept {es : List (BufferEvent Picture)} {s : FrameBuffers Picture}
    (h : GuardedRun (bufferStep geometry) (SparesHeld geometry) {} es s) : PixelsKept s := by
  have hinv : BufferInvariant s :=
    h.invariant bufferInvariant_init fun _ _ _ => bufferInvariant_step
  exact hinv.kept

/-! ## Nothing less will do -/

theorem not_pixelsKept_read {header : MatHeader Picture}
    (hlost : s.buffers[header.buffer]? ≠ some header.captured) : ¬ PixelsKept (s.read header) := by
  intro hkept
  apply hlost
  exact hkept (header, s.buffers[header.buffer]?) (List.mem_append_right _ List.mem_cons_self)

variable (geometry) in
/-- A worker that waits takes the queued frames one after another and gets to read any of them. -/
theorem exists_wrong_read_frameQueue (queue : List (MatHeader Picture)) {header : MatHeader Picture}
    (hwaiting : s.worker = .waiting) (hqueue : s.detector.frameQueue = queue)
    (hmem : header ∈ queue) (hlost : s.buffers[header.buffer]? ≠ some header.captured) :
    ∃ es t, Run (bufferStep geometry) s es t ∧ ¬ PixelsKept t := by
  induction queue generalizing s with
  | nil => cases hmem
  | cons first rest ih =>
      let taken : FrameBuffers Picture :=
        { s with detector := { s.detector with frameQueue := rest }, worker := .detecting first }
      have htake : bufferStep geometry s .workerTake = some taken := by
        simp only [bufferStep, hwaiting, Detector.popFrame, hqueue, taken]
      rcases List.mem_cons.1 hmem with rfl | hmem
      · have hread : bufferStep geometry taken .workerRead = some (taken.read header) := rfl
        exact ⟨_, _, .snoc (.snoc .nil htake) hread, not_pixelsKept_read hlost⟩
      · -- not this one: without a face the worker goes on to the next frame
        have hdrop : bufferStep geometry taken (.workerDetected false) =
            some { taken with worker := .waiting } := by
          simp [bufferStep, taken]
        obtain ⟨es, t, hrun, hwrong⟩ := ih (s := { taken with worker := .waiting }) rfl rfl hmem hlost
        have hfirst : Run (bufferStep geometry) s [.workerTake, .workerDetected false] _ :=
          .snoc (.snoc .nil htake) hdrop
        exact ⟨_, t, hfirst.append hrun, hwrong⟩

variable (geometry) in
/-- The same for the register thread. -/
theorem exists_wrong_read_registerQueue (queue : List (MatHeader Picture))
    {header : MatHeader Picture} (hwaiting : s.registering = none)
    (hqueue : s.detector.registerQueue = queue) (hmem : header ∈ queue)
    (hlost : s.buffers[header.buffer]? ≠ some header.captured) :
    ∃ es t, Run (bufferStep geometry) s es t ∧ ¬ PixelsKept t := by
  induction queue generalizing s with
  | nil => cases hmem
  | cons first rest ih =>
      let taken : FrameBuffers Picture :=
        { s with detector := { s.detector with registerQueue := rest }, registering := some first }
      have htake : bufferStep geometry s .registerTake = some taken := by
        simp only [bufferStep, hwaiting, Detector.popRegister, hqueue, taken]
      rcases List.mem_cons.1 hmem with rfl | hmem
      · have hread : bufferStep geometry taken .registerRead = some (taken.read header) := rfl
        exact ⟨_, _, .snoc (.snoc .nil htake) hread, not_pixelsKept_read hlost⟩
      · have hdone : bufferStep geometry taken .registerDone =
            some { taken with registering := none } := rfl
        obtain ⟨es, t, hrun, hwrong⟩ := ih (s := { taken with registering := none }) rfl rfl hmem hlost
        have hfirst : Run (bufferStep geometry) s [.registerTake, .registerDone] _ :=
          .snoc (.snoc .nil htake) hdone
        exact ⟨_, t, hfirst.append hrun, hwrong⟩

variable (geometry) in
/-- A held frame whose pixels are gone can still be read. -/
theorem exists_wrong_read_of_lost {header : MatHeader Picture} (hheld : Held s header)
    (hlost : s.buffers[header.buffer]? ≠ some header.captured) :
    ∃ es t, Run (bufferStep geometry) s es t ∧ ¬ PixelsKept t := by
  rcases hheld with hqueue | hqueue | hcurrent | hcurrent
  · -- the worker first finishes the frame it has
    cases hworker : s.worker with
    | waiting => exact exists_wrong_read_frameQueue geometry _ hworker rfl hqueue hlost
    | detecting first =>
        have hdrop : bufferStep geometry s (.workerDetected false) =
            some { s with worker := .waiting } := by
          simp [bufferStep, hworker]
        obtain ⟨es, t, hrun, hwrong⟩ := exists_wrong_read_frameQueue geometry _
          (s := { s with worker := .waiting }) rfl rfl hqueue hlost
        exact ⟨_, t, (Run.snoc .nil hdrop).append hrun, hwrong⟩
    | recognizing first =>
        have hdone : bufferStep geometry s .workerDone = some { s with worker := .waiting } := by
          simp only [bufferStep, hworker]
        obtain ⟨es, t, hrun, hwrong⟩ := exists_wrong_read_frameQueue geometry _
          (s := { s with worker := .waiting }) rfl rfl hqueue hlost
        exact ⟨_, t, (Run.snoc .nil hdone).append hrun, hwrong⟩
  · cases hregistering : s.registering with
    | none => exact exists_wrong_read_registerQueue geometry _ hregistering rfl hqueue hlost
    | some first =>
        have hdone : bufferStep geometry s .registerDone = some { s with registering := none } := by
          simp only [bufferStep, hregistering, Option.map_some]
        obtain ⟨es, t, hrun, hwrong⟩ := exists_wrong_read_registerQueue geometry _
          (s := { s with registering := none }) rfl rfl hqueue hlost
        exact ⟨_, t, (Run.snoc .nil hdone).append hrun, hwrong⟩
  · have hread : bufferStep geometry s .workerRead = some (s.read header) := by
      simp only [bufferStep, hcurrent, Option.map_some]
    exact ⟨_, _, .snoc .nil hread, not_pixelsKept_read hlost⟩
  · have hread : bufferStep geometry s .registerRead = some (s.read header) := by
      simp only [bufferStep, hcurrent, Option.map_some]
    exact ⟨_, _, .snoc .nil hread, not_pixelsKept_read hlost⟩

/-- After a step outside the guard the run can go on to read wrong pixels: the guard leaves out no
run that is safe to continue. -/
theorem exists_wrong_read (hguard : ¬ SparesHeld geometry s e)
    (ht : bufferStep geometry s e = some t) :
    ∃ es u, Run (bufferStep geometry) t es u ∧ ¬ PixelsKept u := by
  cases e with
  | grab picture =>
      simp only [SparesHeld, not_forall] at hguard
      obtain ⟨b, hover, header, hheld, hbuffer, hother⟩ := hguard
      obtain ⟨-, hlt⟩ := overwritten_eq_some hover
      simp only [bufferStep, FrameBuffers.grabInto, hover] at ht
      split at ht
      · cases ht
        refine exists_wrong_read_of_lost geometry hheld ?_
        show (s.buffers.set b picture)[header.buffer]? ≠ some header.captured
        rw [hbuffer, List.getElem?_set_self hlt]
        exact fun hsame => hother (Option.some.inj hsame).symm
      · cases ht
  | _ => exact absurd trivial hguard

end Machine

/-- A capture after the worker is done with the one before, all pictures of one size. -/
theorem pixels_kept_in_turn :
    ∃ s : FrameBuffers Nat, GuardedRun (bufferStep fun _ => ()) (SparesHeld fun _ => ()) {}
        [.grab 1, .onFrameCaptured, .workerTake, .workerRead, .workerDetected false, .grab 2] s ∧
      s.buffers = [2] ∧ PixelsKept s := by
  have hrun : GuardedRun (bufferStep fun _ => ()) (SparesHeld fun _ => ()) {}
      [.grab 1, .onFrameCaptured, .workerTake, .workerRead, .workerDetected false, .grab 2] _ :=
    .snoc (.snoc (.snoc (.snoc (.snoc (.snoc .nil (by rintro b h; cases h) rfl) trivial rfl)
      trivial rfl) trivial rfl) trivial rfl) (by rintro b - header (h | h | h | h) <;> cases h) rfl
  exact ⟨_, hrun, rfl, pixels_kept hrun⟩

/-- The second capture overwrites the first, which still waits in the queue. -/
theorem pixels_not_kept :
    ∃ s : FrameBuffers Nat, Run (bufferStep fun _ => ()) {}
        [.grab 1, .onFrameCaptured, .grab 2, .onFrameCaptured, .workerTake, .workerRead] s ∧
      s.reads = [(⟨0, 1⟩, some 2)] ∧ ¬ PixelsKept s := by
  refine ⟨_, .snoc (.snoc (.snoc (.snoc (.snoc (.snoc .nil rfl) rfl) rfl) rfl) rfl) rfl, rfl, ?_⟩
  intro hkept
  have hread := hkept (⟨0, 1⟩, some 2) List.mem_cons_self
  cases hread

end ArmFaceID.Server
