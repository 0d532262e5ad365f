import ArmFaceID.Client.FailedRpc
import ArmFaceID.Client.LoopControl
import ArmFaceID.Library.Outputs
import ArmFaceID.Library.Shares

/-!
# Which loop processes which frame

`FaceProcessor::Start` may launch any number of loops, and all of them take their frames off the one
`frame_queue_`. A pass, from the look at the queue over `front` and `pop` to the end of the body, is
one step here. The source has no lock that makes it one when several loops are live: two of them may
read the same front and pop two frames. Whatever the interleaving of whole passes, every captured
frame goes to one loop, in capture order, and each loop does with the frames it got exactly what a
loop alone with these frames does (`loops_share_frames`): the gate is kept per loop, not per client.

When every `Start` finds no live loop, the loops take turns. The requests of all loops together then
are those of the visits seen, and at most one more for every further `Start`
(`requests_of_turns`).
-/

set_option autoImplicit false

namespace ArmFaceID.Client

open ArmFaceID.Library

universe u

variable {Frame : Type u} (imencode : String → Frame → Bytes) (observers : List Observer)

/-- The frame of a capture. -/
def ProcessorEvent.captured : ProcessorEvent Frame → Option Frame
  | .onFrameCaptured frame => some frame
  | _ => none

/-- The pass an event makes, with the thread that makes it. -/
def passMade (s : ProcessorThreads Frame) : ProcessorEvent Frame → List (Nat × Pass Frame)
  | .loopBody thread faces reply =>
      match s.frameQueue with
      | [] => []
      | frame :: _ => [(thread, ⟨frame, faces, reply⟩)]
  | _ => []

/-- The passes of a run from the first `Start`, by all loops. -/
def passes (frameQueue : List Frame) (es : List (ProcessorEvent Frame)) :
    List (Nat × Pass Frame) :=
  outputs (processorStep imencode observers) passMade (firstStart frameQueue) es

/-- The requests a loop sends in the passes `es`. -/
def requestsIn (es : List (Pass Frame)) : List (Nat × RecognizeRequest) :=
  match exec (runPass imencode observers) {} es with
  | some vars => vars.requests
  | none => []

/-- The requests that `n` loops send, which share the passes of `log`, loop by loop. -/
def requestsOfAll (n : Nat) (log : List (Nat × Pass Frame)) : List (Nat × RecognizeRequest) :=
  (List.range n).flatMap fun i => requestsIn imencode observers (share i log)

/-! ## One step -/

section Step

variable {imencode observers} {s t : ProcessorThreads Frame} {e : ProcessorEvent Frame}

/-- A body either finds the queue empty and changes nobody's variables, or makes one pass over the
front of the queue. -/
theorem processorStep_loopBody {thread : Nat} {faces : List Rect} {reply : RpcReply RecognizeResult}
    (ht : processorStep imencode observers s (.loopBody thread faces reply) = some t) :
    ∃ old new, varsAt s.loops thread = some old ∧ varsAt t.loops thread = some new ∧
      t.loops.length = s.loops.length ∧
      (∀ j, j ≠ thread → varsAt t.loops j = varsAt s.loops j) ∧
      ((s.frameQueue = [] ∧ t.frameQueue = [] ∧ new = old) ∨
        ∃ frame, s.frameQueue = frame :: t.frameQueue ∧
          runPass imencode observers old ⟨frame, faces, reply⟩ = some new) := by
  simp only [processorStep] at ht
  split at ht
  · next hqueue =>
      obtain ⟨loops, hloops, rfl⟩ := Option.map_eq_some_iff.1 ht
      obtain ⟨old, new, hold, hsame, hlen, hnew, hothers⟩ := varsAt_workLoop hloops
      cases hsame
      exact ⟨old, old, hold, hnew, hlen, hothers, Or.inl ⟨hqueue, hqueue, rfl⟩⟩
  · next frame rest hqueue =>
      obtain ⟨loops, hloops, rfl⟩ := Option.map_eq_some_iff.1 ht
      obtain ⟨old, new, hold, hpass, hlen, hnew, hothers⟩ := varsAt_workLoop hloops
      exact ⟨old, new, hold, hnew, hlen, hothers, Or.inr ⟨frame, hqueue, hpass⟩⟩

/-- A launch adds one thread with fresh variables; a control call or a capture leaves the threads,
and a test changes nobody's variables. -/
theorem processorStep_threads (hbody : ∀ thread faces reply, e ≠ .loopBody thread faces reply)
    (ht : processorStep imencode observers s e = some t) :
    t.frameQueue = s.frameQueue ++ e.captured.toList ∧
      ((e = .startLaunch ∧ t.loops = launch s.loops {}) ∨
        (e ≠ .startLaunch ∧ t.loops.length = s.loops.length ∧
          ∀ j vars, varsAt t.loops j = some vars → varsAt s.loops j = some vars)) := by
  cases e with
  | startLaunch =>
      obtain ⟨-, rfl⟩ := controlStep_eq_some ht
      exact ⟨(List.append_nil _).symm, Or.inl ⟨rfl, rfl⟩⟩
  | startClear =>
      simp only [processorStep] at ht
      split at ht
      · cases ht
        exact ⟨(List.append_nil _).symm, Or.inr ⟨by simp, rfl, fun _ _ h => h⟩⟩
      · cases ht
  | callStop =>
      obtain ⟨-, rfl⟩ := controlStep_eq_some ht
      exact ⟨(List.append_nil _).symm, Or.inr ⟨by simp, rfl, fun _ _ h => h⟩⟩
  | callContinue =>
      obtain ⟨-, rfl⟩ := controlStep_eq_some ht
      exact ⟨(List.append_nil _).symm, Or.inr ⟨by simp, rfl, fun _ _ h => h⟩⟩
  | onFrameCaptured frame =>
      cases ht
      exact ⟨rfl, Or.inr ⟨by simp, rfl, fun _ _ h => h⟩⟩
  | loopTest thread =>
      obtain ⟨loops, hloops, rfl⟩ := Option.map_eq_some_iff.1 ht
      obtain ⟨hlen, hvars⟩ := varsAt_testLoop hloops
      exact ⟨(List.append_nil _).symm, Or.inr ⟨by simp, hlen, hvars⟩⟩
  | loopBody thread faces reply => exact absurd rfl (hbody thread faces reply)

end Step

/-! ## Any number of loops -/

/-- What the threads hold, in terms of the passes so far: the frames are handed out in order, each
thread is where a loop alone with its share would be, and only launched threads have a share. -/
structure SharedFrames (frameQueue : List Frame) (es : List (ProcessorEvent Frame))
    (log : List (Nat × Pass Frame)) (s : ProcessorThreads Frame) : Prop where
  frames : log.map (fun p => p.2.frame) ++ s.frameQueue =
    frameQueue ++ es.filterMap ProcessorEvent.captured
  alone : ∀ i, ∃ vars, Run (runPass imencode observers) {} (share i log) vars ∧
    ∀ v, varsAt s.loops i = some v → v = vars
  launched : ∀ p ∈ log, p.1 < s.loops.length

section Shared

variable {imencode observers} {frameQueue : List Frame} {es : List (ProcessorEvent Frame)}
  {log : List (Nat × Pass Frame)} {s t : ProcessorThreads Frame} {e : ProcessorEvent Frame}

theorem captured_snoc (es : List (ProcessorEvent Frame)) (e : ProcessorEvent Frame) :
    (es ++ [e]).filterMap ProcessorEvent.captured =
      es.filterMap ProcessorEvent.captured ++ e.captured.toList := by
  rw [List.filterMap_append]
  cases e <;> rfl

theorem sharedFrames_init :
    SharedFrames imencode observers frameQueue [] [] (firstStart frameQueue) where
  frames := (List.append_nil frameQueue).symm
  alone i := by
    refine ⟨{}, .nil, ?_⟩
    intro v hv
    -- the one thread launched has made no pass
    have hi : i < 1 := lt_length_of_varsAt hv
    have hzero : i = 0 := by omega
    subst hzero
    exact (Option.some.inj hv).symm
  launched p hp := absurd hp List.not_mem_nil

/-- A pass adds to the share of its own thread. -/
theorem sharedFrames_pass (hinv : SharedFrames imencode observers frameQueue es log s)
    {thread : Nat} {faces : List Rect} {reply : RpcReply RecognizeResult}
    {old new : RunState Frame} {frame : Frame} (hold : varsAt s.loops thread = some old)
    (hnew : varsAt t.loops thread = some new) (hlen : t.loops.length = s.loops.length)
    (hothers : ∀ j, j ≠ thread → varsAt t.loops j = varsAt s.loops j)
    (hqueue : s.frameQueue = frame :: t.frameQueue)
    (hpass : runPass imencode observers old ⟨frame, faces, reply⟩ = some new) :
    SharedFrames imencode observers frameQueue (es ++ [.loopBody thread faces reply])
      (log ++ [(thread, ⟨frame, faces, reply⟩)]) t where
  frames := by
    rw [captured_snoc, List.map_append, List.append_assoc, ← List.append_assoc frameQueue,
      ← hinv.frames, hqueue]
    simp [ProcessorEvent.captured]
  alone := by
    intro i
    by_cases hi : thread = i
    · subst hi
      obtain ⟨vars, hrun, hvars⟩ := hinv.alone thread
      have hsame := hvars old hold
      subst hsame
      refine ⟨new, ?_, ?_⟩
      · rw [share_snoc_self]
        exact .snoc hrun hpass
      · intro v hv
        exact Option.some.inj (hv.symm.trans hnew)
    · obtain ⟨vars, hrun, hvars⟩ := hinv.alone i
      refine ⟨vars, ?_, ?_⟩
      · rw [share_snoc_ne hi]
        exact hrun
      · intro v hv
        rw [hothers i (Ne.symm hi)] at hv
        exact hvars v hv
  launched := by
    intro p hp
    rw [hlen]
    rcases List.mem_append.1 hp with hp | hp
    · exact hinv.launched p hp
    · rw [List.mem_singleton.1 hp]
      exact lt_length_of_varsAt hold

theorem sharedFrames_step (hinv : SharedFrames imencode observers frameQueue es log s)
    (ht : processorStep imencode observers s e = some t) :
    SharedFrames imencode observers frameQueue (es ++ [e]) (log ++ passMade s e) t := by
  by_cases hbody : ∃ thread faces reply, e = .loopBody thread faces reply
  · obtain ⟨thread, faces, reply, rfl⟩ := hbody
    obtain ⟨old, new, hold, hnew, hlen, hothers, hwhat⟩ := processorStep_loopBody ht
    rcases hwhat with ⟨hempty, hempty', rfl⟩ | ⟨frame, hqueue, hpass⟩
    · -- nothing queued: the thread goes back to its test
      have hnone : passMade s (.loopBody thread faces reply) = [] := by
        simp only [passMade, hempty]
      rw [hnone, List.append_nil]
      refine ⟨?_, ?_, ?_⟩
      · rw [captured_snoc, hempty', ← hempty, hinv.frames]
        exact (congrArg _ (List.append_nil _)).symm
      · intro i
        obtain ⟨vars, hrun, hvars⟩ := hinv.alone i
        refine ⟨vars, hrun, ?_⟩
        intro v hv
        by_cases hi : i = thread
        · subst hi
          exact hvars v (hold.trans (hnew.symm.trans hv))
        · rw [hothers i hi] at hv
          exact hvars v hv
      · rw [hlen]
        exact hinv.launched
    · have hmade : passMade s (.loopBody thread faces reply) =
          [(thread, ⟨frame, faces, reply⟩)] := by
        simp only [passMade, hqueue]
      rw [hmade]
      exact sharedFrames_pass hinv hold hnew hlen hothers hqueue hpass
  · have hno : ∀ thread faces reply, e ≠ .loopBody thread faces reply :=
      fun thread faces reply h => hbody ⟨thread, faces, reply, h⟩
    have hnone : passMade s e = [] := by
      cases e with
      | loopBody thread faces reply => exact absurd rfl (hno thread faces reply)
      | _ => rfl
    obtain ⟨hqueue, hthreads⟩ := processorStep_threads hno ht
    rw [hnone, List.append_nil]
    have hframes : log.map (fun p => p.2.frame) ++ t.frameQueue =
        frameQueue ++ (es ++ [e]).filterMap ProcessorEvent.captured := by
      rw [captured_snoc, hqueue, ← List.append_assoc, hinv.frames, List.append_assoc]
    rcases hthreads with ⟨-, hloops⟩ | ⟨-, hlen, hvarsAt⟩
    · refine ⟨hframes, ?_, ?_⟩
      · intro i
        obtain ⟨vars, hrun, hvars⟩ := hinv.alone i
        refine ⟨vars, hrun, ?_⟩
        intro v hv
        rw [hloops] at hv
        by_cases hi : i = s.loops.length
        · -- the new thread has no share yet
          subst hi
          rw [varsAt_launch_last] at hv
          have hnothing : share s.loops.length log = [] :=
            share_eq_nil fun p hp => Nat.ne_of_lt (hinv.launched p hp)
          rw [hnothing] at hrun
          exact (Option.some.inj hv).symm.trans (Run.unique .nil hrun)
        · rw [varsAt_launch_ne hi] at hv
          exact hvars v hv
      · intro p hp
        rw [hloops, launch, List.length_append]
        exact Nat.lt_succ_of_lt (hinv.launched p hp)
    · refine ⟨hframes, ?_, ?_⟩
      · intro i
        obtain ⟨vars, hrun, hvars⟩ := hinv.alone i
        exact ⟨vars, hrun, fun v hv => hvars v (hvarsAt i v hv)⟩
      · rw [hlen]
        exact hinv.launched

theorem sharedFrames_run
    (h : Run (processorStep imencode observers) (firstStart frameQueue) es s) :
    SharedFrames imencode observers frameQueue es (passes imencode observers frameQueue es) s :=
  h.outputs_invariant sharedFrames_init fun _ _ _ _ _ hinv ht => sharedFrames_step hinv ht

end Shared

/-- **Frames and loops.** In every run from the first `Start` in which each pass is one step, with any
control calls and any number of loops: the frames of all passes, in their order, followed by those
queued are the frames captured in capture order, and each loop has done with its share what a loop
alone does with it, so that its requests and callbacks are those of the visits of its share. -/
theorem loops_share_frames {frameQueue : List Frame} {es : List (ProcessorEvent Frame)}
    {s : ProcessorThreads Frame}
    (h : Run (processorStep imencode observers) (firstStart frameQueue) es s) :
    (passes imencode observers frameQueue es).map (fun p => p.2.frame) ++ s.frameQueue =
        frameQueue ++ es.filterMap ProcessorEvent.captured ∧
      ∀ i, ∃ vars,
        Run (runPass imencode observers) {} (share i (passes imencode observers frameQueue es))
          vars ∧
        (∀ v, varsAt s.loops i = some v → v = vars) ∧
        vars.requests.map Prod.fst =
          visitStarts (share i (passes imencode observers frameQueue es)) ∧
        vars.callbacks = (visitStarts (share i (passes imencode observers frameQueue es))).flatMap
          (callbacksAt observers (share i (passes imencode observers frameQueue es))) := by
  have hinv := sharedFrames_run h
  refine ⟨hinv.frames, ?_⟩
  intro i
  obtain ⟨vars, hrun, hvars⟩ := hinv.alone i
  exact ⟨vars, hrun, hvars, (gateInvariant_of_run hrun).requests, callbacks_eq hrun⟩

/-- A second `Start` while the first loop lives: the two loops share three frames of one visit. -/
def twoLoops : List (ProcessorEvent Nat) :=
  [.startClear, .loopTest 0, .startLaunch, .startClear, .loopTest 1, .loopBody 0 [{}] (.error ""),
    .loopBody 1 [{}] (.error ""), .loopTest 0, .loopBody 0 [{}] (.error "")]

/-- Both loops send a request for the one visit. -/
theorem loops_share_frames_two :
    ∃ s, Run (processorStep (fun _ _ => []) [0]) (firstStart [10, 11, 12]) twoLoops s ∧
      (passes (fun _ _ => []) [0] [10, 11, 12] twoLoops).map (fun p => (p.1, p.2.frame)) =
        [(0, 10), (1, 11), (0, 12)] ∧
      (passes (fun _ _ => []) [0] [10, 11, 12] twoLoops).map (fun p => p.2.frame) ++
        s.frameQueue = [10, 11, 12] ++ twoLoops.filterMap ProcessorEvent.captured ∧
      (requestsOfAll (fun _ _ => []) [0] 2
        (passes (fun _ _ => []) [0] [10, 11, 12] twoLoops)).length = 2 := by
  have hrun : Run (processorStep (fun _ _ => []) [0]) (firstStart [10, 11, 12]) twoLoops _ :=
    .snoc (.snoc (.snoc (.snoc (.snoc (.snoc (.snoc (.snoc (.snoc .nil rfl) rfl) rfl) rfl) rfl) rfl)
      rfl) rfl) rfl
  exact ⟨_, hrun, by decide, (loops_share_frames (fun _ _ => []) [0] hrun).1, by decide⟩

/-! ## Loops that take turns -/

/-- `Start` finds no live loop. -/
def StartsAlone (s : ProcessorThreads Frame) : ProcessorEvent Frame → Prop
  | .startLaunch => live s.loops = 0
  | _ => True

instance (s : ProcessorThreads Frame) (e : ProcessorEvent Frame) : Decidable (StartsAlone s e) :=
  match e with
  | .startLaunch => inferInstanceAs (Decidable (_ = _))
  | .startClear => isTrue trivial
  | .callStop => isTrue trivial
  | .callContinue => isTrue trivial
  | .onFrameCaptured _ => isTrue trivial
  | .loopTest _ => isTrue trivial
  | .loopBody _ _ _ => isTrue trivial

/-- Only the thread launched last has not left, and the passes were made by the threads in the order
of their launches. -/
structure InTurn (log : List (Nat × Pass Frame)) (s : ProcessorThreads Frame) : Prop where
  lastOnly : ∀ i vars, varsAt s.loops i = some vars → i + 1 = s.loops.length
  turns : (log.map Prod.fst).Pairwise (· ≤ ·)
  launched : ∀ p ∈ log, p.1 < s.loops.length

section Turns

variable {imencode observers} {frameQueue : List Frame} {es : List (ProcessorEvent Frame)}
  {log : List (Nat × Pass Frame)} {s t : ProcessorThreads Frame} {e : ProcessorEvent Frame}

theorem inTurn_init (frameQueue : List Frame) : InTurn [] (firstStart frameQueue) where
  lastOnly i vars hi := by
    have hlt : i < 1 := lt_length_of_varsAt hi
    show i + 1 = 1
    omega
  turns := List.Pairwise.nil
  launched p hp := absurd hp List.not_mem_nil

theorem inTurn_step (hinv : InTurn log s) (hguard : StartsAlone s e)
    (ht : processorStep imencode observers s e = some t) : InTurn (log ++ passMade s e) t := by
  by_cases hbody : ∃ thread faces reply, e = .loopBody thread faces reply
  · obtain ⟨thread, faces, reply, rfl⟩ := hbody
    obtain ⟨old, new, hold, hnew, hlen, hothers, -⟩ := processorStep_loopBody ht
    have hlast := hinv.lastOnly thread old hold
    have hmade : ∀ p ∈ passMade s (.loopBody thread faces reply), p.1 = thread := by
      intro p hp
      simp only [passMade] at hp
      split at hp
      · cases hp
      · rw [List.mem_singleton.1 hp]
    refine ⟨?_, ?_, ?_⟩
    · intro i vars hi
      rw [hlen]
      by_cases hsame : i = thread
      · rw [hsame]
        exact hlast
      · rw [hothers i hsame] at hi
        exact hinv.lastOnly i vars hi
    · -- nobody launched later has made a pass
      rw [List.map_append, List.pairwise_append]
      refine ⟨hinv.turns, ?_, ?_⟩
      · simp only [passMade]
        split
        · exact List.Pairwise.nil
        · exact List.pairwise_singleton _ _
      · intro i hi j hj
        obtain ⟨p, hp, rfl⟩ := List.mem_map.1 hi
        obtain ⟨p', hp', rfl⟩ := List.mem_map.1 hj
        have hlt := hinv.launched p hp
        rw [hmade p' hp']
        omega
    · intro p hp
      rw [hlen]
      rcases List.mem_append.1 hp with hp | hp
      · exact hinv.launched p hp
      · rw [hmade p hp]
        exact lt_length_of_varsAt hold
  · have hno : ∀ thread faces reply, e ≠ .loopBody thread faces reply :=
      fun thread faces reply h => hbody ⟨thread, faces, reply, h⟩
    have hnone : passMade s e = [] := by
      cases e with
      | loopBody thread faces reply => exact absurd rfl (hno thread faces reply)
      | _ => rfl
    obtain ⟨-, hthreads⟩ := processorStep_threads hno ht
    rw [hnone, List.append_nil]
    rcases hthreads with ⟨rfl, hloops⟩ | ⟨-, hlen, hvarsAt⟩
    · -- everybody launched before has left
      have hleft : live s.loops = 0 := hguard
      have hmore : t.loops.length = s.loops.length + 1 := by
        rw [hloops, launch, List.length_append, List.length_singleton]
      refine ⟨?_, hinv.turns, ?_⟩
      · intro i vars hi
        rw [hloops] at hi
        by_cases hsame : i = s.loops.length
        · rw [hmore, hsame]
        · rw [varsAt_launch_ne hsame, varsAt_eq_none_of_live hleft] at hi
          cases hi
      · intro p hp
        rw [hmore]
        exact Nat.lt_succ_of_lt (hinv.launched p hp)
    · refine ⟨?_, hinv.turns, ?_⟩
      · intro i vars hi
        rw [hlen]
        exact hinv.lastOnly i vars (hvarsAt i vars hi)
      · rw [hlen]
        exact hinv.launched

end Turns

/-! ## The visits of parts -/

section Visits

variable {es es' : List (Pass Frame)}

theorem faceFrames_append (es es' : List (Pass Frame)) :
    faceFrames (es ++ es') = faceFrames es ++ (faceFrames es').map (· + es.length) := by
  rw [faceFrames, faceFrames, faceFrames, List.findIdxs_append, Nat.zero_add]
  exact congrArg _ List.findIdxs_start

theorem visits_length (es : List (Pass Frame)) : (visits es).length = (visitStarts es).length :=
  (groupHeads_length sameVisit (faceFrames es)).symm

/-- Moving all frames of a sequence leaves the number of its visits. -/
theorem groupHeads_length_shift (l : List Nat) (n : Nat) :
    (groupHeads sameVisit (l.map (· + n))).length = (groupHeads sameVisit l).length := by
  have hshift : ∀ i j, sameVisit (i + n) (j + n) = sameVisit i j := by
    intro i j
    simp only [sameVisit, Nat.add_sub_add_right]
  rw [groupHeads_map hshift, List.length_map]

/-- Processing a sequence in two parts can split one visit. -/
theorem visits_length_append (es es' : List (Pass Frame)) :
    (visits (es ++ es')).length ≤ (visits es).length + (visits es').length ∧
      (visits es).length + (visits es').length ≤ (visits (es ++ es')).length + 1 := by
  have hparts := groupHeads_length_append sameVisit (faceFrames es)
    ((faceFrames es').map (· + es.length))
  rw [groupHeads_length_shift, ← faceFrames_append] at hparts
  simp only [visits_length, visitStarts]
  exact hparts

/-- Processing a sequence in `n` parts can split a visit at each of the cuts. -/
theorem visits_length_parts (parts : Nat → List (Pass Frame)) (n : Nat) :
    (visits ((List.range n).flatMap parts)).length ≤
        ((List.range n).flatMap fun i => visits (parts i)).length ∧
      ((List.range n).flatMap fun i => visits (parts i)).length ≤
        (visits ((List.range n).flatMap parts)).length + (n - 1) := by
  induction n with
  | zero => exact ⟨Nat.le_refl _, Nat.le_refl _⟩
  | succ n ih =>
      have hcut := visits_length_append ((List.range n).flatMap parts) (parts n)
      rw [List.range_succ, List.flatMap_append, List.flatMap_append, List.flatMap_singleton,
        List.flatMap_singleton, List.length_append]
      cases n with
      | zero =>
          simp only [List.range_zero, List.flatMap_nil, List.nil_append, List.length_nil] at *
          omega
      | succ n => omega

/-- Parts of equal lengths make lists of equal lengths. -/
theorem length_flatMap_congr {α β γ : Type*} {f : α → List β} {g : α → List γ}
    (h : ∀ a, (f a).length = (g a).length) (l : List α) :
    (l.flatMap f).length = (l.flatMap g).length := by
  induction l with
  | nil => rfl
  | cons a l ih =>
      rw [List.flatMap_cons, List.flatMap_cons, List.length_append, List.length_append, h, ih]

end Visits

/-- **Loops in turns.** When every `Start` of a run finds no live loop, all loops together send one
request for each visit in the sequence of all passes, and at most one more for each `Start` after
the first. -/
theorem requests_of_turns {frameQueue : List Frame} {es : List (ProcessorEvent Frame)}
    {s : ProcessorThreads Frame}
    (h : GuardedRun (processorStep imencode observers) StartsAlone (firstStart frameQueue) es s) :
    (visits ((passes imencode observers frameQueue es).map Prod.snd)).length ≤
        (requestsOfAll imencode observers s.loops.length
          (passes imencode observers frameQueue es)).length ∧
      (requestsOfAll imencode observers s.loops.length
          (passes imencode observers frameQueue es)).length ≤
        (visits ((passes imencode observers frameQueue es).map Prod.snd)).length +
          (s.loops.length - 1) := by
  have hturns : InTurn (passes imencode observers frameQueue es) s :=
    h.outputs_invariant (I := fun _ => InTurn) (inTurn_init frameQueue)
      fun _ _ _ _ _ hinv hguard ht => inTurn_step hinv hguard ht
  have hshared := sharedFrames_run h.run
  -- each loop sends one request for each visit of its share
  have hcount : ∀ i, (requestsIn imencode observers
      (share i (passes imencode observers frameQueue es))).length =
        (visits (share i (passes imencode observers frameQueue es))).length := by
    intro i
    obtain ⟨vars, hrun, -⟩ := hshared.alone i
    have hreq := congrArg List.length (gateInvariant_of_run hrun).requests
    rw [List.length_map] at hreq
    rw [requestsIn, run_iff_exec.1 hrun, visits_length]
    exact hreq
  rw [requestsOfAll, length_flatMap_congr hcount, ← flatMap_share hturns.turns hturns.launched]
  exact visits_length_parts (fun i => share i (passes imencode observers frameQueue es)) _

/-- The loop sees a pause in the middle of a visit, and a `Start` begins the visit again. -/
def restarted : List (ProcessorEvent Nat) :=
  [.startClear, .loopTest 0, .loopBody 0 [{}] (.error ""), .callStop, .loopTest 0, .startLaunch,
    .startClear, .loopTest 1, .loopBody 1 [{}] (.error "")]

/-- One visit, one further `Start`, and one request more. -/
theorem requests_of_turns_restarted :
    ∃ s, GuardedRun (processorStep (fun _ _ => []) [0]) StartsAlone (firstStart [10, 11]) restarted
        s ∧
      visits ((passes (fun _ _ => []) [0] [10, 11] restarted).map Prod.snd) = [[0, 1]] ∧
      (requestsOfAll (fun _ _ => []) [0] s.loops.length
        (passes (fun _ _ => []) [0] [10, 11] restarted)).length = 2 ∧
      (requestsOfAll (fun _ _ => []) [0] s.loops.length
          (passes (fun _ _ => []) [0] [10, 11] restarted)).length ≤
        (visits ((passes (fun _ _ => []) [0] [10, 11] restarted).map Prod.snd)).length +
          (s.loops.length - 1) := by
  have hrun : GuardedRun (processorStep (fun _ _ => []) [0]) StartsAlone (firstStart [10, 11])
      restarted _ :=
    .snoc (.snoc (.snoc (.snoc (.snoc (.snoc (.snoc (.snoc (.snoc .nil trivial rfl) trivial rfl)
      trivial rfl) trivial rfl) trivial rfl) (by decide) rfl) trivial rfl) trivial rfl) trivial rfl
  exact ⟨_, hrun, by decide, by decide, (requests_of_turns (fun _ _ => []) [0] hrun).2⟩

end ArmFaceID.Client
