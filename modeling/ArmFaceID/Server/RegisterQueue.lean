import ArmFaceID.Server.Detector
import ArmFaceID.Library.Machine
import ArmFaceID.Library.OneShotFlag

/-!
# Which frames get registered

Requests to register, captures and iterations of the register thread, in any order and each taken as
one step. `need_register_` is a flag that a request raises and a capture takes down, so the captures
that take it are the ones requested. The register thread loses and repeats none of them
(`registered_frames`).
-/

set_option autoImplicit false

namespace ArmFaceID.Server

open ArmFaceID.Library

universe u

variable {Frame : Type u}

inductive RegisterEvent (Frame : Type u) where
  | needRegisterFace (user : User)
  | onFrameCaptured (frame : Frame)
  | registerIteration

/-- A call of `NeedRegisterFace`. -/
def RegisterEvent.isRequest : RegisterEvent Frame → Bool
  | .needRegisterFace _ => true
  | _ => false

/-- The frame of a capture. -/
def RegisterEvent.captured : RegisterEvent Frame → Option Frame
  | .onFrameCaptured frame => some frame
  | _ => none

def RegisterEvent.isCapture (e : RegisterEvent Frame) : Bool := e.captured.isSome

/-- The detector, and the frames the register thread has taken so far. -/
structure RegisterThread (Frame : Type u) where
  detector : Detector Frame := {}
  popped : List Frame := []

/-- One step. An iteration on an empty queue goes on waiting. -/
def registerStep (s : RegisterThread Frame) : RegisterEvent Frame → Option (RegisterThread Frame)
  | .needRegisterFace user => some { s with detector := s.detector.needRegisterFace user }
  | .onFrameCaptured frame => some { s with detector := s.detector.onFrameCaptured frame }
  | .registerIteration =>
      match s.detector.popRegister with
      | none => some s
      | some (frame, detector) => some ⟨detector, s.popped ++ [frame]⟩

/-! ## The captures requested -/

/-- The frame captured at position `k`. -/
def capturedAt (es : List (RegisterEvent Frame)) (k : Nat) : Option Frame :=
  es[k]?.bind RegisterEvent.captured

/-- A request was made before position `k`, and nothing has been captured since. -/
abbrev RequestedAt (es : List (RegisterEvent Frame)) (k : Nat) : Prop :=
  RaisedAt RegisterEvent.isRequest RegisterEvent.isCapture es k

/-- The positions of the captures that follow a request, no other capture in between. -/
abbrev requestedCaptures (es : List (RegisterEvent Frame)) : List Nat :=
  takingPositions RegisterEvent.isRequest RegisterEvent.isCapture es

theorem capturedAt_snoc_of_lt {es : List (RegisterEvent Frame)} {k : Nat} (h : k < es.length)
    (e : RegisterEvent Frame) : capturedAt (es ++ [e]) k = capturedAt es k := by
  rw [capturedAt, capturedAt, List.getElem?_append_left h]

theorem capturedAt_snoc_last (es : List (RegisterEvent Frame)) (e : RegisterEvent Frame) :
    capturedAt (es ++ [e]) es.length = e.captured := by
  simp [capturedAt]

theorem lt_length_of_mem_requestedCaptures {es : List (RegisterEvent Frame)} {k : Nat}
    (h : k ∈ requestedCaptures es) : k < es.length :=
  List.mem_range.1 (List.mem_of_mem_filter h)

/-- The frames of the requested captures, in capture order. -/
def requestedFrames (es : List (RegisterEvent Frame)) : List (Option Frame) :=
  (requestedCaptures es).map (capturedAt es)

/-- An event adds a frame to the requested ones exactly when it is a capture after a request. -/
theorem requestedFrames_snoc (es : List (RegisterEvent Frame)) (e : RegisterEvent Frame) :
    requestedFrames (es ++ [e]) = requestedFrames es ++
      if e.isCapture = true ∧ RequestedAt es es.length then [e.captured] else [] := by
  rw [requestedFrames, requestedFrames, requestedCaptures, takingPositions_snoc, List.map_append]
  congr 1
  · apply List.map_congr_left
    intro k hk
    exact capturedAt_snoc_of_lt (lt_length_of_mem_requestedCaptures hk) e
  · split
    · rw [List.map_singleton, capturedAt_snoc_last]
    · rfl

/-! ## The invariant -/

/-- What the flag, the queue and the thread hold, in terms of all events so far. -/
structure RegisterInvariant (es : List (RegisterEvent Frame)) (s : RegisterThread Frame) : Prop where
  flag : s.detector.needRegister = true ↔ RequestedAt es es.length
  frames : (s.popped ++ s.detector.registerQueue).map some = requestedFrames es

theorem registerInvariant_init : RegisterInvariant [] ({} : RegisterThread Frame) := by
  refine ⟨?_, rfl⟩
  constructor
  · intro h
    cases h
  · rintro ⟨j, hj, -⟩
    exact absurd hj (Nat.not_lt_zero j)

/-- Every event is enabled and keeps the invariant. -/
theorem registerInvariant_step {es : List (RegisterEvent Frame)} {s : RegisterThread Frame}
    (hinv : RegisterInvariant es s) (e : RegisterEvent Frame) :
    ∃ t, registerStep s e = some t ∧ RegisterInvariant (es ++ [e]) t := by
  have hlen : (es ++ [e]).length = es.length + 1 := by simp
  have hframes := requestedFrames_snoc es e
  cases e with
  | needRegisterFace user =>
      -- the flag goes up, and the queue waits for a capture
      refine ⟨_, rfl, ?_, ?_⟩
      · rw [hlen, RequestedAt, raisedAt_snoc_last]
        exact iff_of_true rfl (Or.inl rfl)
      · rw [hframes, if_neg (fun h => Bool.false_ne_true h.1), List.append_nil]
        exact hinv.frames
  | onFrameCaptured frame =>
      -- the flag goes down, and the frame is queued if the flag was up
      refine ⟨_, rfl, ?_, ?_⟩
      · rw [hlen, RequestedAt, raisedAt_snoc_last]
        refine iff_of_false (by simp) ?_
        rintro (h | ⟨h, -⟩)
        · cases h
        · cases h
      · rw [hframes, Detector.onFrameCaptured_registerQueue, ← List.append_assoc, List.map_append,
          hinv.frames]
        congr 1
        by_cases hflag : s.detector.needRegister = true
        · rw [if_pos hflag, if_pos ⟨rfl, hinv.flag.1 hflag⟩]
          rfl
        · rw [if_neg hflag, if_neg (fun h => hflag (hinv.flag.2 h.2))]
          rfl
  | registerIteration =>
      -- a frame moves from the queue to the thread; the flag stays
      have hflag : RequestedAt (es ++ [.registerIteration]) (es.length + 1) ↔
          RequestedAt es es.length := by
        rw [RequestedAt, raisedAt_snoc_last]
        constructor
        · rintro (h | ⟨-, h⟩)
          · cases h
          · exact h
        · exact fun h => Or.inr ⟨rfl, h⟩
      rw [if_neg (fun h => Bool.false_ne_true h.1), List.append_nil] at hframes
      cases hpop : s.detector.popRegister with
      | none =>
          refine ⟨s, by simp only [registerStep, hpop], ?_, ?_⟩
          · rw [hlen, hflag]
            exact hinv.flag
          · rw [hframes]
            exact hinv.frames
      | some next =>
          obtain ⟨frame, detector⟩ := next
          obtain ⟨hqueue, hneed, -, -⟩ := Detector.popRegister_eq_some hpop
          refine ⟨⟨detector, s.popped ++ [frame]⟩, by simp only [registerStep, hpop], ?_, ?_⟩
          · rw [hlen, hflag, hneed]
            exact hinv.flag
          · rw [hframes, ← hinv.frames, hqueue, List.append_assoc]
            rfl

theorem registerInvariant_run (es : List (RegisterEvent Frame)) :
    ∃ s, exec registerStep {} es = some s ∧ RegisterInvariant es s := by
  induction es using List.reverseRecOn with
  | nil => exact ⟨{}, rfl, registerInvariant_init⟩
  | append_singleton es e ih =>
      obtain ⟨s, hs, hinv⟩ := ih
      obtain ⟨t, ht, hinv'⟩ := registerInvariant_step hinv e
      exact ⟨t, by rw [exec_snoc, hs, Option.bind_some, ht], hinv'⟩

/-- **Which frames get registered.** After any events, the frames taken by the register thread
followed by those in its queue are the frames of the requested captures, in capture order. No
capture is among these twice, and a request followed by a capture is answered by one of them. -/
theorem registered_frames (es : List (RegisterEvent Frame)) :
    ∃ s, exec registerStep {} es = some s ∧
      (s.popped ++ s.detector.registerQueue).map some =
        (requestedCaptures es).map (capturedAt es) ∧
      (requestedCaptures es).Pairwise (· < ·) ∧
      ∀ j k, j < k → OccursAt RegisterEvent.isRequest es j →
        OccursAt RegisterEvent.isCapture es k →
        ∃ k', j < k' ∧ k' ≤ k ∧ k' ∈ requestedCaptures es := by
  obtain ⟨s, hs, hinv⟩ := registerInvariant_run es
  refine ⟨s, hs, hinv.frames, takingPositions_pairwise, ?_⟩
  intro j k hjk hj hk
  exact exists_mem_takingPositions hj hjk hk

/-- A burst of two requests, two captures, and a capture the thread has yet to take. -/
example :
    requestedCaptures [.needRegisterFace {}, .needRegisterFace {}, .onFrameCaptured 10,
      .onFrameCaptured 11, .needRegisterFace {}, .registerIteration,
      .onFrameCaptured 12] = [2, 6] := by decide

end ArmFaceID.Server
