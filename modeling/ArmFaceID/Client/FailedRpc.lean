import ArmFaceID.Client.RequestGating

/-!
# What a failed RPC does to its visit

`RpcClient::RecognizeFace` logs a failure and returns the result as it was default-constructed;
`FaceProcessor::Run` delivers it and closes the gate. So failures are handled only where none
matters: the callbacks of a run are those of the first frames of its visits (`callbacks_eq`), and
the law `FailuresHandled` holds exactly when every visit whose first RPC fails has no other face
frame and nobody observes (`failures_handled_iff`).
-/

set_option autoImplicit false

namespace ArmFaceID.Client

open ArmFaceID.Library

universe u

variable {Frame : Type u}

/-- The RPC for frame `k` fails, if it is made. -/
def FailedAt (es : List (Pass Frame)) (k : Nat) : Prop :=
  ∃ p, es[k]? = some p ∧ ∃ message, p.reply = .error message

/-- A callback for frame `k` delivers the server's answer to an RPC for this frame. -/
def DeliversAnswer (observers : List Observer) (es : List (Pass Frame))
    (c : Nat × Notification Frame RecognizeResult) : Prop :=
  ∃ p face rest result, es[c.1]? = some p ∧ p.faces = face :: rest ∧ p.reply = .ok result ∧
    ∃ o ∈ observers, c.2 = (o, .onFaceRecognized p.frame face result)

/-- The callbacks made for a frame when its RPC is answered with `result`. -/
def delivery (observers : List Observer) (k : Nat) (frame : Frame) (face : Rect)
    (result : RecognizeResult) : List (Nat × Notification Frame RecognizeResult) :=
  (notifyAll observers (.onFaceRecognized frame face result)).map fun n => (k, n)

/-- What failures should do: observers get answers only, a failed request is made again on the next
face frame of the visit, and a visit with a frame whose RPC succeeds has exactly one answer
delivered. -/
structure FailuresHandled (observers : List Observer) (es : List (Pass Frame))
    (s : RunState Frame) : Prop where
  delivered : ∀ c ∈ s.callbacks, c.1 ∈ s.requests.map Prod.fst ∧ DeliversAnswer observers es c
  retried : ∀ v ∈ visits es, ∀ before i j after, v = before ++ i :: j :: after →
    i ∈ s.requests.map Prod.fst → FailedAt es i → j ∈ s.requests.map Prod.fst
  answered : ∀ v ∈ visits es, (∃ k ∈ v, ¬ FailedAt es k) →
    ∃ k ∈ v, ∃ p face rest result, es[k]? = some p ∧ p.faces = face :: rest ∧
      p.reply = .ok result ∧
      s.callbacks.filter (fun c => decide (c.1 ∈ v)) = delivery observers k p.frame face result

/-- A visit whose first RPC fails has one frame, and nobody observes. -/
def FailuresUnseen (observers : List Observer) (es : List (Pass Frame)) : Prop :=
  ∀ v ∈ visits es, ∀ k, v.head? = some k → FailedAt es k → observers = [] ∧ v = [k]

/-! ## The callbacks of a run -/

/-- The callbacks of a request for frame `k`. -/
def callbacksAt (observers : List Observer) (es : List (Pass Frame)) (k : Nat) :
    List (Nat × Notification Frame RecognizeResult) :=
  match es[k]? with
  | none => []
  | some p =>
      match p.faces with
      | [] => []
      | face :: _ => delivery observers k p.frame face (recognizeFace p.reply)

theorem faceFrames_nodup (es : List (Pass Frame)) : (faceFrames es).Nodup := List.nodup_findIdxs

/-- The frame at a position of `faceFrames`. -/
theorem exists_pass_of_mem_faceFrames {es : List (Pass Frame)} {k : Nat} (h : k ∈ faceFrames es) :
    ∃ p face rest, es[k]? = some p ∧ p.faces = face :: rest := by
  have hlt := lt_length_of_mem_faceFrames h
  have hface : es[k].hasFace = true := (List.mem_findIdxs_iff_pos_getElem hlt).1 h
  cases hf : es[k].faces with
  | nil => simp [Pass.hasFace, hf] at hface
  | cons face rest => exact ⟨es[k], face, rest, List.getElem?_eq_getElem hlt, hf⟩

section Callbacks

variable {imencode : String → Frame → Bytes} {observers : List Observer}
  {es : List (Pass Frame)} {s t : RunState Frame} {p : Pass Frame} {k : Nat}

theorem callbacksAt_snoc_of_lt (h : k < es.length) (p : Pass Frame) :
    callbacksAt observers (es ++ [p]) k = callbacksAt observers es k := by
  rw [callbacksAt, callbacksAt, List.getElem?_append_left h]

theorem callbacksAt_snoc_last {face : Rect} {rest : List Rect} (h : p.faces = face :: rest) :
    callbacksAt observers (es ++ [p]) es.length =
      delivery observers es.length p.frame face (recognizeFace p.reply) := by
  simp [callbacksAt, h]

/-- A request adds the callbacks of its frame, whatever the reply is. -/
theorem requestRecognition_callbacks (face : Rect) (s : RunState Frame) :
    (requestRecognition imencode observers p face s).callbacks = s.callbacks ++
      if s.enableRpc = true then
        delivery observers s.processed p.frame face (recognizeFace p.reply)
      else [] := by
  rw [requestRecognition]
  split
  · rfl
  · exact (List.append_nil _).symm

theorem callbacks_step (hinv : GateInvariant es s)
    (hcalls : s.callbacks = (visitStarts es).flatMap (callbacksAt observers es))
    (ht : runPass imencode observers s p = some t) :
    t.callbacks = (visitStarts (es ++ [p])).flatMap (callbacksAt observers (es ++ [p])) := by
  -- the callbacks of earlier visits stay
  have hold : (visitStarts es).flatMap (callbacksAt observers (es ++ [p])) = s.callbacks := by
    rw [hcalls]
    apply List.flatMap_congr
    intro k hk
    apply callbacksAt_snoc_of_lt
    exact lt_length_of_mem_faceFrames ((groupHeads_sublist _ _).subset hk)
  rcases runPass_cases ht with ⟨hf, -, rfl⟩ | ⟨face, rest, hf, rfl⟩
  · rw [visitStarts_snoc_none (Pass.hasFace_of_nil hf), hold]
    rfl
  · -- the gate is open exactly when the frame starts a visit
    show (requestRecognition imencode observers p face
      { s with noneFaceCounter := 0 }).callbacks = _
    rw [requestRecognition_callbacks, visitStarts_snoc_face (Pass.hasFace_of_cons hf)]
    by_cases hen : s.enableRpc = true
    · rw [if_pos hen, if_pos (hinv.flag.1 hen), List.flatMap_append, hold, List.flatMap_singleton,
        callbacksAt_snoc_last hf, hinv.processed]
    · rw [if_neg hen, if_neg (fun h => hen (hinv.flag.2 h)), hold, List.append_nil]

/-- The callbacks of a run are those of the first frames of its visits. -/
theorem callbacks_eq (h : Run (runPass imencode observers) {} es s) :
    s.callbacks = (visitStarts es).flatMap (callbacksAt observers es) := by
  induction h with
  | nil => rfl
  | snoc hrun hstep ih => exact callbacks_step (gateInvariant_of_run hrun) ih hstep

theorem tag_of_mem_callbacksAt {c : Nat × Notification Frame RecognizeResult}
    (h : c ∈ callbacksAt observers es k) : c.1 = k := by
  rw [callbacksAt] at h
  split at h
  · cases h
  · split at h
    · cases h
    · obtain ⟨n, -, rfl⟩ := List.mem_map.1 h
      rfl

/-- Of parts that carry their index, a condition on the index selects whole parts. -/
theorem filter_flatMap_tagged {β : Type u} {f : Nat → List (Nat × β)} (q : Nat → Bool)
    (htag : ∀ k, ∀ c ∈ f k, c.1 = k) (l : List Nat) :
    (l.flatMap f).filter (fun c => q c.1) = (l.filter q).flatMap f := by
  -- all of a part is kept or none of it, by its index
  induction l with
  | nil => rfl
  | cons k l ih =>
      rw [List.flatMap_cons, List.filter_append, ih]
      cases hk : q k with
      | true =>
          have hall : (f k).filter (fun c => q c.1) = f k := by
            rw [List.filter_eq_self]
            intro c hc
            rw [htag k c hc, hk]
          rw [hall, List.filter_cons_of_pos hk, List.flatMap_cons]
      | false =>
          have hnone : (f k).filter (fun c => q c.1) = [] := by
            rw [List.filter_eq_nil_iff]
            intro c hc
            rw [htag k c hc, hk]
            exact Bool.false_ne_true
          rw [hnone, List.nil_append, List.filter_cons_of_neg (by rw [hk]; exact Bool.false_ne_true)]

/-- The callbacks of a visit are those of its first frame. -/
theorem callbacks_of_visit (h : Run (runPass imencode observers) {} es s) {v : List Nat}
    (hv : v ∈ visits es) (hfirst : v.head? = some k) :
    s.callbacks.filter (fun c => decide (c.1 ∈ v)) = callbacksAt observers es k := by
  rw [callbacks_eq h,
    filter_flatMap_tagged (fun i => decide (i ∈ v)) fun i c => tag_of_mem_callbacksAt,
    visitStarts, filter_groupHeads_mem (faceFrames_nodup es) hv hfirst, List.flatMap_singleton]

variable (observers) in
/-- What is delivered for a frame whose RPC succeeds. -/
theorem callbacksAt_of_not_failed (hk : k ∈ faceFrames es) (hok : ¬ FailedAt es k) :
    ∃ p face rest result, es[k]? = some p ∧ p.faces = face :: rest ∧ p.reply = .ok result ∧
      callbacksAt observers es k = delivery observers k p.frame face result := by
  obtain ⟨p, face, rest, hp, hf⟩ := exists_pass_of_mem_faceFrames hk
  cases hr : p.reply with
  | error message => exact absurd ⟨p, hp, message, hr⟩ hok
  | ok result =>
      refine ⟨p, face, rest, result, hp, hf, hr, ?_⟩
      simp only [callbacksAt, hp, hf, hr, recognizeFace]

/-- With an observer, a frame whose RPC fails has a callback that delivers no answer. -/
theorem exists_undelivered {o : Observer} (ho : o ∈ observers) (hk : k ∈ faceFrames es)
    (hfail : FailedAt es k) :
    ∃ c ∈ callbacksAt observers es k, ¬ DeliversAnswer observers es c := by
  obtain ⟨p, face, rest, hp, hf⟩ := exists_pass_of_mem_faceFrames hk
  refine ⟨(k, (o, .onFaceRecognized p.frame face (recognizeFace p.reply))), ?_, ?_⟩
  · simp only [callbacksAt, hp, hf]
    exact List.mem_map_of_mem (List.mem_map_of_mem ho)
  · rintro ⟨p', -, -, result, hp', -, hr, -⟩
    obtain ⟨p'', hp'', message, hr'⟩ := hfail
    have hsame : p' = p'' := Option.some.inj (hp'.symm.trans hp'')
    rw [hsame, hr'] at hr
    cases hr

/-- A visit is one of face frames, and has a first one. -/
theorem exists_head_of_visit {v : List Nat} (hv : v ∈ visits es) :
    ∃ k, v.head? = some k ∧ k ∈ v ∧ k ∈ visitStarts es := by
  cases v with
  | nil => exact absurd hv (List.nil_notMem_splitBy _ _)
  | cons k v => exact ⟨k, rfl, List.mem_cons_self, mem_groupHeads.2 ⟨k :: v, hv, rfl⟩⟩

theorem mem_faceFrames_of_visit {v : List Nat} (hv : v ∈ visits es) (hk : k ∈ v) :
    k ∈ faceFrames es := mem_of_mem_splitBy hv hk

end Callbacks

/-! ## When failures are handled -/

section Handled

variable {imencode : String → Frame → Bytes} {observers : List Observer}
  {es : List (Pass Frame)} {s : RunState Frame}

theorem failuresHandled_of_unseen (h : Run (runPass imencode observers) {} es s)
    (hunseen : FailuresUnseen observers es) : FailuresHandled observers es s := by
  have hreq : s.requests.map Prod.fst = visitStarts es := (gateInvariant_of_run h).requests
  -- the three clauses: answers only, retries, one answer a visit
  refine ⟨?_, ?_, ?_⟩
  · intro c hc
    rw [callbacks_eq h] at hc
    obtain ⟨k, hk, hc⟩ := List.mem_flatMap.1 hc
    obtain ⟨v, hv, hfirst⟩ := mem_groupHeads.1 hk
    have hface := mem_faceFrames_of_visit hv (List.mem_of_head? hfirst)
    -- a failed first frame has callbacks only if somebody observes
    have hok : ¬ FailedAt es k := by
      intro hfail
      obtain ⟨hnobody, -⟩ := hunseen v hv k hfirst hfail
      obtain ⟨p, face, rest, hp, hf⟩ := exists_pass_of_mem_faceFrames hface
      simp [callbacksAt, hp, hf, hnobody, delivery, notifyAll] at hc
    obtain ⟨p, face, rest, result, hp, hf, hr, heq⟩ := callbacksAt_of_not_failed observers hface hok
    rw [heq] at hc
    obtain ⟨n, hn, rfl⟩ := List.mem_map.1 hc
    obtain ⟨o, ho, rfl⟩ := List.mem_map.1 hn
    exact ⟨by rw [hreq]; exact hk, p, face, rest, result, hp, hf, hr, o, ho, rfl⟩
  · -- a failed request is the only frame of its visit
    intro v hv before i j after hsplit hi hfail
    rw [hreq] at hi
    have hmem : i ∈ v := by
      rw [hsplit]
      exact List.mem_append_right _ List.mem_cons_self
    have hfirst := head?_eq_of_mem_groupHeads (faceFrames_nodup es) hv hmem hi
    have hlen := congrArg List.length ((hunseen v hv i hfirst hfail).2.symm.trans hsplit)
    simp only [List.length_append, List.length_cons, List.length_nil] at hlen
    omega
  · rintro v hv ⟨k, hk, hok⟩
    obtain ⟨first, hfirst, hmem, -⟩ := exists_head_of_visit hv
    -- if the first frame's RPC fails, it is the visit's only frame
    have hok' : ¬ FailedAt es first := by
      intro hfail
      have hone := (hunseen v hv first hfirst hfail).2
      rw [hone] at hk
      rw [List.mem_singleton.1 hk] at hok
      exact hok hfail
    obtain ⟨p, face, rest, result, hp, hf, hr, heq⟩ :=
      callbacksAt_of_not_failed observers (mem_faceFrames_of_visit hv hmem) hok'
    exact ⟨first, hmem, p, face, rest, result, hp, hf, hr,
      (callbacks_of_visit h hv hfirst).trans heq⟩

theorem unseen_of_failuresHandled (h : Run (runPass imencode observers) {} es s)
    (hlaw : FailuresHandled observers es s) : FailuresUnseen observers es := by
  have hreq : s.requests.map Prod.fst = visitStarts es := (gateInvariant_of_run h).requests
  intro v hv k hfirst hfail
  have hstart : k ∈ visitStarts es := mem_groupHeads.2 ⟨v, hv, hfirst⟩
  have hface := mem_faceFrames_of_visit hv (List.mem_of_head? hfirst)
  refine ⟨?_, ?_⟩
  · -- an observer would be called without an answer
    by_contra hsome
    obtain ⟨o, ho⟩ := List.exists_mem_of_ne_nil observers hsome
    obtain ⟨c, hc, hnot⟩ := exists_undelivered ho hface hfail
    apply hnot
    apply (hlaw.delivered c _).2
    rw [callbacks_eq h]
    exact List.mem_flatMap.2 ⟨k, hstart, hc⟩
  · -- a second frame of the visit would get a request
    cases v with
    | nil => cases hfirst
    | cons i v =>
        cases hfirst
        cases v with
        | nil => rfl
        | cons j after =>
            have hj := hlaw.retried _ hv [] k j after rfl (by rw [hreq]; exact hstart) hfail
            rw [hreq] at hj
            have hhead := head?_eq_of_mem_groupHeads (faceFrames_nodup es) hv
              (List.mem_cons_of_mem _ List.mem_cons_self) hj
            have hnodup := nodup_of_mem_splitBy (faceFrames_nodup es) hv
            rw [Option.some.inj hhead] at hnodup
            exact absurd List.mem_cons_self (List.nodup_cons.1 hnodup).1

end Handled

/-- **Failed RPCs.** In a run of the loop failures are handled exactly when every visit whose first
RPC fails has no other face frame, and nobody observes. -/
theorem failures_handled_iff (imencode : String → Frame → Bytes) (observers : List Observer)
    {es : List (Pass Frame)} {s : RunState Frame} (h : Run (runPass imencode observers) {} es s) :
    FailuresHandled observers es s ↔ FailuresUnseen observers es :=
  ⟨unseen_of_failuresHandled h, failuresHandled_of_unseen h⟩

/-- A frame with a face whose RPC would be answered. -/
def knownAt (n : Nat) : Pass Nat := ⟨n, [{}], .ok { id := 1, name := "Ann" }⟩

/-- Where the first RPC is answered, the second frame of the visit needs none. -/
theorem failures_handled_ann :
    ∃ s, Run (runPass (fun _ _ => []) [0]) {} [knownAt 0, knownAt 1] s ∧
      FailuresHandled [0] [knownAt 0, knownAt 1] s := by
  have hrun : Run (runPass (fun _ _ => []) [0]) {} [knownAt 0, knownAt 1] _ :=
    .snoc (.snoc .nil rfl) rfl
  refine ⟨_, hrun, (failures_handled_iff (fun _ _ => []) [0] hrun).2 ?_⟩
  have hvisits : visits [knownAt 0, knownAt 1] = [[0, 1]] := by decide
  intro v hv k hfirst hfail
  rw [hvisits, List.mem_singleton] at hv
  subst hv
  cases hfirst
  obtain ⟨p, hp, message, hr⟩ := hfail
  cases hp
  cases hr

/-- The RPC of the first frame fails: the observer is called with the default result, and the second
frame, whose RPC would succeed, sends no request. -/
theorem failures_not_handled :
    ∃ s, Run (runPass (fun _ _ => []) [0]) {} [faceAt 0, knownAt 1] s ∧
      visits [faceAt 0, knownAt 1] = [[0, 1]] ∧
      s.callbacks = [(0, (0, .onFaceRecognized 0 {} {}))] ∧ s.requests.map Prod.fst = [0] ∧
      ¬ FailuresHandled [0] [faceAt 0, knownAt 1] s := by
  refine ⟨_, .snoc (.snoc .nil rfl) rfl, by decide, rfl, rfl, ?_⟩
  intro hlaw
  obtain ⟨p, -, -, result, hp, -, hr, -⟩ :=
    (hlaw.delivered (0, (0, .onFaceRecognized 0 {} {})) List.mem_cons_self).2
  cases hp
  cases hr

end ArmFaceID.Client
