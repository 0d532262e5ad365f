import ArmFaceID.Client.FaceProcessor
import ArmFaceID.Library.Groups
import ArmFaceID.Library.Machine
import Mathlib.Data.List.Induction

/-!
# One recognition request per visit

The frames with a face are grouped into visits: two neighbouring ones belong to the same visit when
fewer than `threshold` frames without a face lie between them. The gate of `FaceProcessor::Run`
lives in a counter and a flag; `GateInvariant` says what both mean in terms of all frames processed
so far. The request of a visit is made on its first frame (`requests_eq_visits`).
-/

set_option autoImplicit false

namespace ArmFaceID.Client

open ArmFaceID.Library

universe u

variable {Frame : Type u}

/-- A frame in which `detectMultiScale` finds a face. -/
def Pass.hasFace (p : Pass Frame) : Bool := !p.faces.isEmpty

theorem Pass.hasFace_of_nil {p : Pass Frame} (h : p.faces = []) : p.hasFace = false := by
  rw [Pass.hasFace, h]
  rfl

theorem Pass.hasFace_of_cons {p : Pass Frame} {face : Rect} {rest : List Rect}
    (h : p.faces = face :: rest) : p.hasFace = true := by
  rw [Pass.hasFace, h]
  rfl

/-- The positions of the frames with a face. -/
def faceFrames (es : List (Pass Frame)) : List Nat := es.findIdxs Pass.hasFace

/-- Two neighbouring face frames of one visit: fewer than `threshold` frames lie between them. -/
def sameVisit (i j : Nat) : Bool := decide (j - i - 1 < threshold)

/-- The visits, each the list of the positions of its face frames. -/
def visits (es : List (Pass Frame)) : List (List Nat) := (faceFrames es).splitBy sameVisit

/-- The positions of the first frames of the visits. -/
def visitStarts (es : List (Pass Frame)) : List Nat := groupHeads sameVisit (faceFrames es)

/-- The number of frames since the last face frame, all of them if there was none. -/
def sinceFace (es : List (Pass Frame)) : Nat :=
  match (faceFrames es).getLast? with
  | none => es.length
  | some j => es.length - j - 1

@[simp] theorem faceFrames_nil : faceFrames ([] : List (Pass Frame)) = [] := rfl

theorem faceFrames_snoc (es : List (Pass Frame)) (p : Pass Frame) :
    faceFrames (es ++ [p]) = faceFrames es ++ if p.hasFace then [es.length] else [] := by
  rw [faceFrames, faceFrames, List.findIdxs_append, List.findIdxs_singleton, Nat.zero_add]

theorem faceFrames_snoc_face {es : List (Pass Frame)} {p : Pass Frame} (h : p.hasFace = true) :
    faceFrames (es ++ [p]) = faceFrames es ++ [es.length] := by
  rw [faceFrames_snoc, if_pos h]

theorem faceFrames_snoc_none {es : List (Pass Frame)} {p : Pass Frame} (h : p.hasFace = false) :
    faceFrames (es ++ [p]) = faceFrames es := by
  rw [faceFrames_snoc, h]
  simp

theorem lt_length_of_mem_faceFrames {es : List (Pass Frame)} {j : Nat} (h : j ∈ faceFrames es) :
    j < es.length := List.lt_add_of_mem_findIdxs j h

theorem sinceFace_snoc_face {es : List (Pass Frame)} {p : Pass Frame} (h : p.hasFace = true) :
    sinceFace (es ++ [p]) = 0 := by
  simp [sinceFace, faceFrames_snoc_face h]

theorem sinceFace_snoc_none {es : List (Pass Frame)} {p : Pass Frame} (h : p.hasFace = false) :
    sinceFace (es ++ [p]) = sinceFace es + 1 := by
  rw [sinceFace, sinceFace, faceFrames_snoc_none h]
  cases hlast : (faceFrames es).getLast? with
  | none => simp
  | some j =>
      have hj : j < es.length := lt_length_of_mem_faceFrames (List.mem_of_getLast? hlast)
      simp only [List.length_append, List.length_singleton]
      omega

theorem sinceFace_le_length (es : List (Pass Frame)) : sinceFace es ≤ es.length := by
  unfold sinceFace
  split <;> omega

/-- A new face frame opens a visit exactly when no face was seen yet, or not for `threshold`
frames. -/
theorem visitStarts_snoc_face {es : List (Pass Frame)} {p : Pass Frame} (h : p.hasFace = true) :
    visitStarts (es ++ [p]) =
      if faceFrames es = [] ∨ threshold ≤ sinceFace es then visitStarts es ++ [es.length]
      else visitStarts es := by
  rw [visitStarts, visitStarts, faceFrames_snoc_face h]
  cases hlast : (faceFrames es).getLast? with
  | none =>
      have hnil : faceFrames es = [] := List.getLast?_eq_none_iff.1 hlast
      rw [if_pos (Or.inl hnil)]
      exact groupHeads_snoc_new (by simp [hlast])
  | some j =>
      have hne : faceFrames es ≠ [] := by
        intro hnil
        rw [hnil] at hlast
        cases hlast
      have hsince : sinceFace es = es.length - j - 1 := by simp [sinceFace, hlast]
      by_cases hgap : threshold ≤ sinceFace es
      · rw [if_pos (Or.inr hgap)]
        apply groupHeads_snoc_new
        intro i hi
        rw [hlast] at hi
        cases hi
        simp only [sameVisit, decide_eq_false_iff_not]
        omega
      · rw [if_neg (by simp [hne, hgap])]
        apply groupHeads_snoc_same hlast
        simp only [sameVisit, decide_eq_true_eq]
        omega

theorem visitStarts_snoc_none {es : List (Pass Frame)} {p : Pass Frame} (h : p.hasFace = false) :
    visitStarts (es ++ [p]) = visitStarts es := by
  rw [visitStarts, faceFrames_snoc_none h, visitStarts]

/-- The loop variables in terms of the frames processed. The flag is set before the first face
frame and, after one, from the moment the counter has reached the threshold: later values of the
counter pass the equality test by, and the flag stays set. -/
structure GateInvariant (es : List (Pass Frame)) (s : RunState Frame) : Prop where
  processed : s.processed = es.length
  counter : s.noneFaceCounter = sinceFace es
  flag : s.enableRpc = true ↔ faceFrames es = [] ∨ threshold ≤ sinceFace es
  requests : s.requests.map Prod.fst = visitStarts es

theorem gateInvariant_init : GateInvariant ([] : List (Pass Frame)) {} where
  processed := rfl
  counter := rfl
  flag := by simp
  requests := rfl

section Step

variable {imencode : String → Frame → Bytes} {observers : List Observer}
  {es : List (Pass Frame)} {s t : RunState Frame} {p : Pass Frame}

/-- A pass over a frame with a face. -/
theorem gateInvariant_face (hinv : GateInvariant es s) (hp : p.hasFace = true) {face : Rect}
    (ht : t = finishPass (requestRecognition imencode observers p face
      { s with noneFaceCounter := 0 })) : GateInvariant (es ++ [p]) t := by
  have hstarts : visitStarts (es ++ [p]) = _ := visitStarts_snoc_face hp
  have hflag := hinv.flag
  by_cases hen : s.enableRpc = true
  · -- the gate is open: this frame starts a visit
    rw [if_pos (hflag.1 hen)] at hstarts
    refine ⟨?_, ?_, ?_, ?_⟩
    · simp [ht, finishPass, requestRecognition, hen, hinv.processed]
    · simp [ht, finishPass, requestRecognition, hen, sinceFace_snoc_face hp]
    · simp [ht, finishPass, requestRecognition, hen, sinceFace_snoc_face hp,
        faceFrames_snoc_face hp, threshold]
    · simp [ht, finishPass, requestRecognition, hen, hinv.processed, hinv.requests, hstarts]
  · -- the gate is closed: the frame belongs to the visit of the last face frame
    rw [if_neg (fun h => hen (hflag.2 h))] at hstarts
    refine ⟨?_, ?_, ?_, ?_⟩
    · simp [ht, finishPass, requestRecognition, hen, hinv.processed]
    · simp [ht, finishPass, requestRecognition, hen, sinceFace_snoc_face hp]
    · simp [ht, finishPass, requestRecognition, hen, sinceFace_snoc_face hp,
        faceFrames_snoc_face hp, threshold]
    · simp [ht, finishPass, requestRecognition, hen, hinv.requests, hstarts]

/-- A pass over a frame without a face. -/
theorem gateInvariant_none (hinv : GateInvariant es s) (hp : p.hasFace = false)
    (ht : t = finishPass { s with noneFaceCounter := s.noneFaceCounter + 1 }) :
    GateInvariant (es ++ [p]) t := by
  have hcount : s.noneFaceCounter + 1 = sinceFace (es ++ [p]) := by
    rw [hinv.counter, sinceFace_snoc_none hp]
  refine ⟨?_, ?_, ?_, ?_⟩
  · simp [ht, finishPass, hinv.processed]
  · simp [ht, finishPass, hcount]
  · have hflag := hinv.flag
    have hc := hinv.counter
    have hs : sinceFace (es ++ [p]) = sinceFace es + 1 := sinceFace_snoc_none hp
    simp only [ht, finishPass, faceFrames_snoc_none hp]
    -- the flag changes only where the counter meets the threshold
    by_cases heq : s.noneFaceCounter + 1 = threshold
    · rw [if_pos heq]
      simp only [true_iff]
      exact Or.inr (by omega)
    · rw [if_neg heq, hflag]
      have : threshold ≤ sinceFace (es ++ [p]) ↔ threshold ≤ sinceFace es := by omega
      rw [this]
  · simp [ht, finishPass, hinv.requests, visitStarts_snoc_none hp]

variable (imencode observers p) in
/-- Below the largest `int` a pass is defined and keeps the invariant. -/
theorem gateInvariant_pass (hinv : GateInvariant es s) (hlen : es.length < intMax) :
    ∃ t, runPass imencode observers s p = some t ∧ GateInvariant (es ++ [p]) t := by
  cases hf : p.faces with
  | nil =>
      have hle := sinceFace_le_length es
      have hne : s.noneFaceCounter ≠ intMax := by
        rw [hinv.counter]
        omega
      exact ⟨_, by simp only [runPass, hf, if_neg hne],
        gateInvariant_none hinv (Pass.hasFace_of_nil hf) rfl⟩
  | cons face rest =>
      have hrun : runPass imencode observers s p = some (finishPass
          (requestRecognition imencode observers p face { s with noneFaceCounter := 0 })) := by
        simp only [runPass, hf]
      exact ⟨_, hrun, gateInvariant_face hinv (Pass.hasFace_of_cons hf) rfl⟩

/-- A pass that is defined keeps the invariant. -/
theorem gateInvariant_step (hinv : GateInvariant es s)
    (ht : runPass imencode observers s p = some t) : GateInvariant (es ++ [p]) t := by
  rcases runPass_cases ht with ⟨hf, -, heq⟩ | ⟨face, rest, hf, heq⟩
  · exact gateInvariant_none hinv (Pass.hasFace_of_nil hf) heq
  · exact gateInvariant_face hinv (Pass.hasFace_of_cons hf) heq

theorem gateInvariant_of_run (h : Run (runPass imencode observers) {} es s) :
    GateInvariant es s := by
  induction h with
  | nil => exact gateInvariant_init
  | snoc _ hstep ih => exact gateInvariant_step ih hstep

/-- Runs of fewer than `2 ^ 31` frames are defined and keep the invariant. -/
theorem gateInvariant_run (imencode : String → Frame → Bytes) (observers : List Observer)
    (es : List (Pass Frame)) (hlen : es.length ≤ intMax) :
    ∃ s, exec (runPass imencode observers) {} es = some s ∧ GateInvariant es s := by
  induction es using List.reverseRecOn with
  | nil => exact ⟨{}, rfl, gateInvariant_init⟩
  | append_singleton es p ih =>
      rw [List.length_append, List.length_singleton] at hlen
      obtain ⟨s, hs, hinv⟩ := ih (by omega)
      have hmax : es.length < intMax := by omega
      obtain ⟨t, ht, hinv'⟩ := gateInvariant_pass imencode observers p hinv hmax
      exact ⟨t, by rw [exec_snoc, hs, Option.bind_some, ht], hinv'⟩

end Step

/-- **One request per visit.** In every prefix of a run of fewer than `2 ^ 31` frames the requests
are made on the first frames of the visits, one for each, whatever the replies are. -/
theorem requests_eq_visits (imencode : String → Frame → Bytes) (observers : List Observer)
    (es : List (Pass Frame)) (hlen : es.length ≤ intMax) (seen : List (Pass Frame))
    (hseen : seen <+: es) :
    ∃ s, exec (runPass imencode observers) {} seen = some s ∧
      s.requests.map (fun r => some r.1) = (visits seen).map List.head? ∧
      s.requests.length = (visits seen).length := by
  have hle := hseen.length_le
  obtain ⟨s, hs, hinv⟩ := gateInvariant_run imencode observers seen (by omega)
  have hreq : s.requests.map Prod.fst = groupHeads sameVisit (faceFrames seen) := hinv.requests
  refine ⟨s, hs, ?_, ?_⟩
  · have h := congrArg (List.map some) hreq
    rw [groupHeads_map_some, List.map_map] at h
    exact h
  · have h := congrArg List.length hreq
    rwa [List.length_map, groupHeads_length] at h

/-- A pass over a frame with one face and one over a frame without, for the run below. -/
def faceAt (n : Nat) : Pass Nat := ⟨n, [{}], .error "unavailable"⟩

def noFaceAt (n : Nat) : Pass Nat := ⟨n, [], .error "unavailable"⟩

/-- A face, eight frames without, a face: two visits and, although the first call fails, two
requests. -/
theorem requests_eq_visits_gap :
    let es := faceAt 0 :: (List.range 8).map noFaceAt ++ [faceAt 9]
    visits es = [[0], [9]] ∧
      ∃ s, exec (runPass (fun _ _ => []) [0]) {} es = some s ∧
        s.requests.map (fun r => some r.1) = (visits es).map List.head? ∧
        s.requests.length = (visits es).length :=
  ⟨by decide, requests_eq_visits _ _ _ (by decide) _ (List.prefix_refl _)⟩

end ArmFaceID.Client
