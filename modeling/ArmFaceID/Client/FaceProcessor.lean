import ArmFaceID.Client.RpcClient

/-!
# The client's frame loop

`client/face_processor.cpp`. A pass of the loop in `FaceProcessor::Run` takes one frame off the
queue; what `detectMultiScale` finds in it and how the RPC would end are the pass's external inputs.
The state holds the two loop variables and a record of what the passes did. `++none_face_counter` on
a full `int` is undefined, so a pass may be `none`.
-/

set_option autoImplicit false

namespace ArmFaceID.Client

universe u

variable {Frame : Type u}

/-- The external inputs of one pass of the loop. -/
structure Pass (Frame : Type u) where
  frame : Frame
  /-- What `detectMultiScale` puts into `faces`. -/
  faces : List Rect
  /-- How `stub->RecognizeFace` ends, if the pass calls it. -/
  reply : RpcReply RecognizeResult

/-- `FaceProcessor::threshold`. -/
def threshold : Nat := 8

/-- The largest `int`, `2 ^ 31 - 1`. -/
def intMax : Nat := 2147483647

/-- The loop variables of `FaceProcessor::Run`, with the number of frames processed and, for each
request and each callback, the number of the frame it was made for. -/
structure RunState (Frame : Type u) where
  noneFaceCounter : Nat := 0
  enableRpc : Bool := true
  processed : Nat := 0
  requests : List (Nat × RecognizeRequest) := []
  callbacks : List (Nat × Notification Frame RecognizeResult) := []

/-- The branch `if (enable_rpc)` of a frame with faces, `face` being `faces.front()`. -/
def requestRecognition (imencode : String → Frame → Bytes) (observers : List Observer)
    (p : Pass Frame) (face : Rect) (s : RunState Frame) : RunState Frame :=
  if s.enableRpc then
    let res := recognizeFace p.reply
    { s with
      requests := s.requests ++ [(s.processed, recognizeRequest imencode p.frame)]
      callbacks := s.callbacks ++
        (notifyAll observers (.onFaceRecognized p.frame face res)).map fun n => (s.processed, n)
      enableRpc := false }
  else s

/-- The end of a pass: at the threshold the last face is taken to have left. -/
def finishPass (s : RunState Frame) : RunState Frame :=
  { s with
    -- equality, not `≥`: the counter goes on past the threshold
    enableRpc := if s.noneFaceCounter = threshold then true else s.enableRpc
    processed := s.processed + 1 }

/-- One pass of the loop in `FaceProcessor::Run` over a frame. -/
def runPass (imencode : String → Frame → Bytes) (observers : List Observer)
    (s : RunState Frame) (p : Pass Frame) : Option (RunState Frame) :=
  match p.faces with
  | face :: _ =>
      some (finishPass (requestRecognition imencode observers p face { s with noneFaceCounter := 0 }))
  | [] =>
      -- `++none_face_counter` would overflow
      if s.noneFaceCounter = intMax then none
      else some (finishPass { s with noneFaceCounter := s.noneFaceCounter + 1 })

/-- What a pass that is defined does. -/
theorem runPass_cases {imencode : String → Frame → Bytes} {observers : List Observer}
    {s t : RunState Frame} {p : Pass Frame} (ht : runPass imencode observers s p = some t) :
    (p.faces = [] ∧ s.noneFaceCounter ≠ intMax ∧
      t = finishPass { s with noneFaceCounter := s.noneFaceCounter + 1 }) ∨
    ∃ face rest, p.faces = face :: rest ∧
      t = finishPass (requestRecognition imencode observers p face
        { s with noneFaceCounter := 0 }) := by
  cases hf : p.faces with
  | nil =>
      simp only [runPass, hf] at ht
      split at ht
      · cases ht
      · next hne =>
          cases ht
          exact Or.inl ⟨rfl, hne, rfl⟩
  | cons face rest =>
      simp only [runPass, hf] at ht
      cases ht
      exact Or.inr ⟨face, rest, rfl, rfl⟩

end ArmFaceID.Client
