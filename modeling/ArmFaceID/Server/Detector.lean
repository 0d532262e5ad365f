import ArmFaceID.Server.FaceDatabase

/-!
# The flags and queues of the detector

The members of `FaceDetectorServer` in `server/engine.h` that the GUI, the camera and the two
threads of `Start` share without a lock. The content of a queue is generic: the machines built on
this record tag a frame with what they have to say about it.
-/

set_option autoImplicit false

namespace ArmFaceID.Server

universe u

/-- The members of `FaceDetectorServer` shared by the threads; a queue's front comes first. -/
structure Detector (Frame : Type u) where
  needRegister : Bool := false
  needRecognize : Bool := false
  frameQueue : List Frame := []
  registerQueue : List Frame := []
  nextRegisterUser : User := {}

namespace Detector

variable {Frame : Type u}

/-- `need_register_ = true`, the first write of `NeedRegisterFace`. -/
def setNeedRegister (d : Detector Frame) : Detector Frame := { d with needRegister := true }

/-- `next_register_user_ = user`, the second write of `NeedRegisterFace`. -/
def setNextRegisterUser (d : Detector Frame) (user : User) : Detector Frame :=
  { d with nextRegisterUser := user }

/-- `FaceDetectorServer::NeedRegisterFace`. -/
def needRegisterFace (d : Detector Frame) (user : User) : Detector Frame :=
  d.setNeedRegister.setNextRegisterUser user

/-- `FaceDetectorServer::NeedRecognizeFace`. -/
def needRecognizeFace (d : Detector Frame) (toggled : Bool) : Detector Frame :=
  { d with needRecognize := toggled }

/-- `FaceDetectorServer::OnFrameCaptured`. -/
def onFrameCaptured (d : Detector Frame) (frame : Frame) : Detector Frame :=
  let d := { d with frameQueue := d.frameQueue ++ [frame] }
  if d.needRegister then
    { d with registerQueue := d.registerQueue ++ [frame], needRegister := false }
  else d

/-- The worker thread's `front()` and `pop()` on `frame_queue_`; `none` when it is empty. -/
def popFrame (d : Detector Frame) : Option (Frame × Detector Frame) :=
  match d.frameQueue with
  | [] => none
  | frame :: rest => some (frame, { d with frameQueue := rest })

/-- The register thread's `front()` and `pop()` on `register_queue_`; `none` when it is empty. -/
def popRegister (d : Detector Frame) : Option (Frame × Detector Frame) :=
  match d.registerQueue with
  | [] => none
  | frame :: rest => some (frame, { d with registerQueue := rest })

variable {d d' : Detector Frame} {frame : Frame} {user : User}

@[simp] theorem setNeedRegister_needRegister : d.setNeedRegister.needRegister = true := rfl

@[simp] theorem setNeedRegister_registerQueue :
    d.setNeedRegister.registerQueue = d.registerQueue := rfl

@[simp] theorem setNeedRegister_nextRegisterUser :
    d.setNeedRegister.nextRegisterUser = d.nextRegisterUser := rfl

@[simp] theorem setNextRegisterUser_needRegister :
    (d.setNextRegisterUser user).needRegister = d.needRegister := rfl

@[simp] theorem setNextRegisterUser_registerQueue :
    (d.setNextRegisterUser user).registerQueue = d.registerQueue := rfl

@[simp] theorem setNextRegisterUser_nextRegisterUser :
    (d.setNextRegisterUser user).nextRegisterUser = user := rfl

@[simp] theorem needRegisterFace_needRegister :
    (d.needRegisterFace user).needRegister = true := rfl

@[simp] theorem needRegisterFace_registerQueue :
    (d.needRegisterFace user).registerQueue = d.registerQueue := rfl

/-- Both branches of `OnFrameCaptured` at once: the flag is down afterwards in either. -/
theorem onFrameCaptured_eq (d : Detector Frame) (frame : Frame) :
    d.onFrameCaptured frame =
      { d with
        frameQueue := d.frameQueue ++ [frame]
        registerQueue := d.registerQueue ++ if d.needRegister then [frame] else []
        needRegister := false } := by
  obtain ⟨needRegister, needRecognize, frameQueue, registerQueue, nextRegisterUser⟩ := d
  cases needRegister with
  | false => simp [onFrameCaptured]
  | true => rfl

@[simp] theorem onFrameCaptured_needRegister :
    (d.onFrameCaptured frame).needRegister = false := by
  rw [onFrameCaptured_eq]

@[simp] theorem onFrameCaptured_frameQueue :
    (d.onFrameCaptured frame).frameQueue = d.frameQueue ++ [frame] := by
  rw [onFrameCaptured_eq]

@[simp] theorem onFrameCaptured_registerQueue :
    (d.onFrameCaptured frame).registerQueue =
      d.registerQueue ++ if d.needRegister then [frame] else [] := by
  rw [onFrameCaptured_eq]

@[simp] theorem onFrameCaptured_nextRegisterUser :
    (d.onFrameCaptured frame).nextRegisterUser = d.nextRegisterUser := by
  rw [onFrameCaptured_eq]

@[simp] theorem onFrameCaptured_needRecognize :
    (d.onFrameCaptured frame).needRecognize = d.needRecognize := by
  rw [onFrameCaptured_eq]

/-- Taking a frame removes the front of the queue and touches nothing else. -/
theorem popRegister_eq_some (h : d.popRegister = some (frame, d')) :
    d.registerQueue = frame :: d'.registerQueue ∧ d'.needRegister = d.needRegister ∧
      d'.frameQueue = d.frameQueue ∧ d'.nextRegisterUser = d.nextRegisterUser := by
  simp only [popRegister] at h
  split at h
  · cases h
  · next frame' rest hq =>
      cases h
      exact ⟨hq, rfl, rfl, rfl⟩

theorem popFrame_eq_some (h : d.popFrame = some (frame, d')) :
    d.frameQueue = frame :: d'.frameQueue ∧ d'.registerQueue = d.registerQueue ∧
      d'.needRecognize = d.needRecognize := by
  simp only [popFrame] at h
  split at h
  · cases h
  · next frame' rest hq =>
      cases h
      exact ⟨hq, rfl, rfl⟩

end Detector

end ArmFaceID.Server
