import ArmFaceID.Client.FailedRpc
import ArmFaceID.Library.RemoteCall
import ArmFaceID.Server.BestUser
import ArmFaceID.Server.RecognizeRpc

/-!
# What the client's window shows

The client's loop and the server together. The loop asks the server about the first frame of a visit
and waits; the call may fail before or after the handler has run, and the server goes on registering,
deleting and reloading users in the meantime. `GUI::OnFaceRecognized` puts the name of the result
into the window.

`signText` says what the window is for: the name of the cached user who looks most like the frame.
Every text shown is empty, its call having failed, or is `signText` of the users cached at one moment
of the call, and each visit shows one text (`shown_names`).
-/

set_option autoImplicit false

namespace ArmFaceID.Network

open ArmFaceID.Client ArmFaceID.Library ArmFaceID.Server

variable {Mat QImage : Type} (V : Vision Mat QImage) (gui : Observer) (observers : List Observer)

/-! ## The two parties -/

/-- A frame with what `detectMultiScale` finds in it. -/
abbrev SeenFrame (Mat : Type) := Mat × List Rect

/-- How a stub call ends when the handler's result arrives, or when the call fails. -/
def replyOf : Except String (Handled RecognizeResult) → RpcReply RecognizeResult
  | .ok handled => handled.reply
  | .error message => .error message

/-- The loop's pass over a frame up to the call of the stub, or the whole pass if it makes none. -/
def askServer (s : RunState Mat) (frame : SeenFrame Mat) :
    Option (RunState Mat ⊕ RecognizeRequest) :=
  match frame.2, s.enableRpc with
  | _ :: _, true => some (.inr (recognizeRequest V.imencode frame.1))
  -- the reply is not looked at
  | _, _ => (runPass V.imencode [gui] s ⟨frame.1, frame.2, .error ""⟩).map .inl

/-- The rest of a pass that has made a call. -/
def resumePass (s : RunState Mat) (frame : SeenFrame Mat)
    (reply : Except String (Handled RecognizeResult)) : Option (RunState Mat) :=
  runPass V.imencode [gui] s ⟨frame.1, frame.2, replyOf reply⟩

/-- The client, whose window `gui` observes the loop, and the server with its own observers. -/
def recognition : RemoteCall (RunState Mat) (ServerState V) (SeenFrame Mat) (ServerEvent Mat)
    RecognizeRequest (Handled RecognizeResult) String where
  ask := askServer V gui
  resume := resumePass V gui
  serve s request := ((rpcRecognizeFace V observers s.db.users request).handled, s)
  operate := serverStep V observers

/-- The client before its first frame, and the server after start-up on a table. -/
def started (table : TbUser) : RemoteState (RunState Mat) (ServerState V) (SeenFrame Mat)
    RecognizeRequest (Handled RecognizeResult) where
  caller := {}
  server := .started V table

/-- A step of the network. -/
abbrev NetworkEvent (Mat : Type) := RemoteEvent (SeenFrame Mat) (ServerEvent Mat) String

/-- A pass of the loop, given its reply if it has made a call. -/
def turnPass (turn : RemoteCall.Turn (SeenFrame Mat) (Handled RecognizeResult) String) : Pass Mat :=
  ⟨turn.1.1, turn.1.2, match turn.2 with
    | none => .error ""
    | some reply => replyOf reply⟩

/-- The passes the loop has made after `es`, with the replies they got. -/
def passesMade (table : TbUser) (es : List (NetworkEvent Mat)) : List (Pass Mat) :=
  ((recognition V gui observers).turns (started V table) es).map turnPass

/-! ## The window -/

/-- The texts `GUI::OnFaceRecognized` sets, one after another. -/
def labelTexts (callbacks : List (Nat × Notification Mat RecognizeResult)) : List String :=
  callbacks.filterMap fun c =>
    match c.2 with
    | (observer, .onFaceRecognized _ _ res) => if observer = gui then some res.name else none
    | _ => none

/-- The name in the result of the call made on frame `k`. -/
def textAt (es : List (Pass Mat)) (k : Nat) : String :=
  match es[k]? with
  | some p => (recognizeFace p.reply).name
  | none => ""

/-- What the window should show: the name of the first cached user of greatest similarity, if it
reaches `0.6`. -/
def signText (users : List User) (decodedMat : Mat) : String :=
  match firstBest (similarityTo V decodedMat) compareThreshold users with
  | some user => user.nickName
  | none => ""

/-- The text is right for the frame, when these users are cached. -/
def SignFor (users : List User) (frame : Mat) (text : String) : Prop :=
  ∃ decodedMat, V.bytesToMat (V.imencode ".jpg" frame) V.noMat = .ok decodedMat ∧
    text = signText V users decodedMat

/-! ## One call -/

section Call

variable {V gui observers} {users : List User} {frame : Mat} {c c' : RunState Mat}
  {turn : RemoteCall.Turn (SeenFrame Mat) (Handled RecognizeResult) String}

/-- A handler's result gives the client an error, or the right text. -/
theorem signFor_of_handled (hreply : ∀ message,
      (rpcRecognizeFace V observers users (recognizeRequest V.imencode frame)).handled.reply ≠
        .error message) :
    SignFor V users frame (recognizeFace
      (rpcRecognizeFace V observers users (recognizeRequest V.imencode frame)).handled.reply).name := by
  cases hmat : V.bytesToMat (V.imencode ".jpg" frame) V.noMat with
  | error err =>
      have hthrown : rpcRecognizeFace V observers users (recognizeRequest V.imencode frame) =
          { handled := ⟨.unknown, {}⟩ } := rpcRecognizeFace_of_error hmat
      rw [hthrown] at hreply
      exact absurd rfl (hreply "")
  | ok decodedMat =>
      have hanswer : rpcRecognizeFace V observers users (recognizeRequest V.imencode frame) = _ :=
        rpcRecognizeFace_of_ok hmat
      refine ⟨decodedMat, hmat, ?_⟩
      rw [hanswer] at hreply ⊢
      cases hfound : recognizeFaceFromDb V observers users decodedMat with
      | error err =>
          rw [hfound] at hreply
          exact absurd rfl (hreply "")
      | ok found =>
          -- the user found is the first best one
          have hbest := recognizeFaceFromDb_eq_firstBest observers (similarities_of_ok hfound)
          rw [hfound] at hbest
          have hsame := Except.ok.inj hbest
          subst hsame
          rw [signText]
          cases firstBest (similarityTo V decodedMat) compareThreshold users with
          | none => rfl
          | some user => rfl

/-- The loop asks about a frame with a face while the gate is open, and makes a whole pass over any
other frame. -/
theorem askServer_eq_some {seen : SeenFrame Mat} {asked : RunState Mat ⊕ RecognizeRequest}
    (h : askServer V gui c seen = some asked) :
    ((seen.2 ≠ [] ∧ c.enableRpc = true) ∧ asked = .inr (recognizeRequest V.imencode seen.1)) ∨
      ¬ (seen.2 ≠ [] ∧ c.enableRpc = true) ∧ ∃ next, asked = .inl next ∧
        runPass V.imencode [gui] c ⟨seen.1, seen.2, .error ""⟩ = some next := by
  obtain ⟨frame, faces⟩ := seen
  by_cases hopen : c.enableRpc = true
  · cases faces with
    | nil =>
        simp only [askServer] at h
        obtain ⟨next, hnext, rfl⟩ := Option.map_eq_some_iff.1 h
        exact Or.inr ⟨fun hface => hface.1 rfl, next, rfl, hnext⟩
    | cons face rest =>
        simp only [askServer, hopen] at h
        cases h
        exact Or.inl ⟨⟨List.cons_ne_nil face rest, hopen⟩, rfl⟩
  · have hshut : c.enableRpc = false := Bool.eq_false_iff.2 hopen
    simp only [askServer, hshut] at h
    obtain ⟨next, hnext, rfl⟩ := Option.map_eq_some_iff.1 h
    exact Or.inr ⟨fun hboth => hopen hboth.2, next, rfl, hnext⟩

/-- A turn of the caller is a pass of the loop. -/
theorem runPass_of_turnStep (h : (recognition V gui observers).turnStep c turn = some c') :
    runPass V.imencode [gui] c (turnPass turn) = some c' := by
  obtain ⟨frame, reply⟩ := turn
  rcases RemoteCall.turnStep_eq_some h with ⟨hnone, hask⟩ | ⟨question, reply', hsome, -, hresume⟩
  · -- no call was made
    have hnone : reply = none := hnone
    subst hnone
    rcases askServer_eq_some hask with ⟨-, hno⟩ | ⟨-, next, hnext, hpass⟩
    · cases hno
    · cases hnext
      exact hpass
  · have hsome : reply = some reply' := hsome
    subst hsome
    exact hresume

/-- The turns with a reply are those that find a face and an open gate. -/
theorem asked_of_turnStep (h : (recognition V gui observers).turnStep c turn = some c') :
    turn.2.isSome = true ↔ (turnPass turn).hasFace = true ∧ c.enableRpc = true := by
  have hface : (turnPass turn).hasFace = true ↔ turn.1.2 ≠ [] := by
    simp [turnPass, Pass.hasFace]
  rw [hface]
  rcases RemoteCall.turnStep_eq_some h with ⟨hnone, hask⟩ | ⟨question, reply, hsome, hask, -⟩
  · rw [hnone]
    rcases askServer_eq_some hask with ⟨-, hno⟩ | ⟨hshut, -⟩
    · cases hno
    · exact iff_of_false Bool.false_ne_true hshut
  · rw [hsome]
    rcases askServer_eq_some hask with ⟨hopen, -⟩ | ⟨-, next, hno, -⟩
    · exact iff_of_true rfl hopen
    · cases hno

end Call

/-! ## Runs -/

section Runs

variable {V gui observers} {c : RunState Mat}
  {out : List (RemoteCall.Turn (SeenFrame Mat) (Handled RecognizeResult) String)}

/-- The caller by itself is the loop. -/
theorem runPass_of_turns (h : Run (recognition V gui observers).turnStep {} out c) :
    Run (runPass V.imencode [gui]) {} (out.map turnPass) c :=
  h.rename fun _ _ _ => runPass_of_turnStep

/-- One more turn: a visit starts exactly where the loop asks. -/
theorem visitStarts_snoc_turn {c' : RunState Mat}
    {turn : RemoteCall.Turn (SeenFrame Mat) (Handled RecognizeResult) String}
    (h : Run (recognition V gui observers).turnStep {} out c)
    (hturn : (recognition V gui observers).turnStep c turn = some c') :
    visitStarts ((out ++ [turn]).map turnPass) = visitStarts (out.map turnPass) ++
      if turn.2.isSome = true then [out.length] else [] := by
  have hinv := gateInvariant_of_run (runPass_of_turns h)
  have hasked := asked_of_turnStep hturn
  rw [List.map_append, List.map_singleton]
  cases hface : (turnPass turn).hasFace with
  | false =>
      have hno : ¬ turn.2.isSome = true := by
        rw [hasked, hface]
        exact fun hboth => Bool.false_ne_true hboth.1
      rw [visitStarts_snoc_none hface, if_neg hno, List.append_nil]
  | true =>
      rw [visitStarts_snoc_face hface, List.length_map]
      by_cases hopen : c.enableRpc = true
      · rw [if_pos (hinv.flag.1 hopen), if_pos (hasked.2 ⟨hface, hopen⟩)]
      · rw [if_neg (fun hnew => hopen (hinv.flag.2 hnew)), if_neg (fun h => hopen (hasked.1 h).2),
          List.append_nil]

/-- The turns with a reply are the first frames of the visits. -/
theorem asked_at_visitStarts (h : Run (recognition V gui observers).turnStep {} out c) :
    RemoteCall.calls out = (visitStarts (out.map turnPass)).length ∧
      ∀ k ∈ visitStarts (out.map turnPass), ∃ seen reply, out[k]? = some (seen, some reply) := by
  induction h with
  | nil => exact ⟨rfl, fun k hk => absurd hk List.not_mem_nil⟩
  | @snoc out c c' turn hrun hturn ih =>
      have hstarts := visitStarts_snoc_turn hrun hturn
      constructor
      · rw [hstarts, List.length_append, ← ih.1, RemoteCall.calls, RemoteCall.calls,
          List.countP_append, List.countP_singleton]
        split <;> rfl
      · intro k hk
        rw [hstarts] at hk
        rcases List.mem_append.1 hk with hold | hnew
        · obtain ⟨seen, reply, hat⟩ := ih.2 k hold
          obtain ⟨hlt, -⟩ := List.getElem?_eq_some_iff.1 hat
          exact ⟨seen, reply, by rw [List.getElem?_append_left hlt]; exact hat⟩
        · split at hnew
          · next hsome =>
              rw [List.mem_singleton.1 hnew, List.getElem?_concat_length]
              obtain ⟨seen, reply⟩ := turn
              obtain ⟨reply, rfl⟩ := Option.isSome_iff_exists.1 hsome
              exact ⟨seen, reply, rfl⟩
          · cases hnew

/-- The texts set in the window are those of the visits. -/
theorem labelTexts_eq {es : List (Pass Mat)} (h : Run (runPass V.imencode [gui]) {} es c) :
    labelTexts gui c.callbacks = (visitStarts es).map (textAt es) := by
  rw [callbacks_eq h, labelTexts, List.filterMap_flatMap]
  have hone : ∀ k ∈ visitStarts es, (callbacksAt [gui] es k).filterMap (fun c =>
      match c.2 with
      | (observer, .onFaceRecognized _ _ res) => if observer = gui then some res.name else none
      | _ => none) = [textAt es k] := by
    intro k hk
    -- the first frame of a visit has a face, so one callback is made
    have hface : k ∈ faceFrames es := (groupHeads_sublist _ _).subset hk
    obtain ⟨p, face, rest, hp, hfaces⟩ := exists_pass_of_mem_faceFrames hface
    simp [callbacksAt, textAt, hp, hfaces, delivery, notifyAll]
  rw [List.flatMap_congr hone]
  exact List.flatMap_pure_eq_map _ _

end Runs

/-- **What the window shows.** In every run of the client and the server: the texts set are those of
the visits, one for each; the handler runs at most once for each visit; and a text is empty because
its call has failed, or it is right for its frame and the users cached at a moment when the loop was
waiting for it. -/
theorem shown_names {table : TbUser} {es : List (NetworkEvent Mat)}
    {s : RemoteState (RunState Mat) (ServerState V) (SeenFrame Mat) RecognizeRequest
      (Handled RecognizeResult)}
    (h : Run (recognition V gui observers).step (started V table) es s) :
    labelTexts gui s.caller.callbacks =
        (visitStarts (passesMade V gui observers table es)).map
          (textAt (passesMade V gui observers table es)) ∧
      es.countP RemoteCall.isServe ≤
        (visits (passesMade V gui observers table es)).length + RemoteCall.pending s.phase ∧
      ∀ k ∈ visitStarts (passesMade V gui observers table es),
        ∃ p, (passesMade V gui observers table es)[k]? = some p ∧
          ((∃ message, p.reply = .error message ∧
              textAt (passesMade V gui observers table es) k = "") ∨
            ∃ seen u, seen ++ [.serve] <+: es ∧
              Run (recognition V gui observers).step (started V table) seen u ∧
              passesMade V gui observers table seen =
                (passesMade V gui observers table es).take k ∧
              SignFor V u.server.db.users p.frame
                (textAt (passesMade V gui observers table es) k)) := by
  have halone := RemoteCall.callerRun rfl h
  have hpasses := runPass_of_turns halone
  have hasked := asked_at_visitStarts halone
  refine ⟨labelTexts_eq hpasses, ?_, ?_⟩
  · have hserves := RemoteCall.serves_le (recognition V gui observers) h
    rw [hasked.1] at hserves
    have hvisits : (visits (passesMade V gui observers table es)).length =
        (visitStarts (passesMade V gui observers table es)).length :=
      (groupHeads_length sameVisit _).symm
    rw [hvisits]
    exact hserves
  · intro k hk
    obtain ⟨frame, reply, hturn⟩ := hasked.2 k hk
    have hp : (passesMade V gui observers table es)[k]? = some (turnPass (frame, some reply)) := by
      rw [passesMade, List.getElem?_map, hturn]
      rfl
    have htext : textAt (passesMade V gui observers table es) k =
        (recognizeFace (replyOf reply)).name := by
      rw [textAt, hp]
      rfl
    refine ⟨_, hp, ?_⟩
    rw [htext]
    cases reply with
    | error message => exact Or.inl ⟨message, rfl, rfl⟩
    | ok handled =>
        obtain ⟨seen, hseen, u, question, hu, hbefore, hask, hanswer⟩ :=
          RemoteCall.answeredWhen rfl h hturn
        cases hreply : handled.reply with
        | error message =>
            refine Or.inl ⟨message, hreply, ?_⟩
            show (recognizeFace handled.reply).name = ""
            rw [hreply]
            rfl
        | ok result =>
            refine Or.inr ⟨seen, u, hseen, hu, ?_, ?_⟩
            · rw [passesMade, hbefore, List.map_take]
              rfl
            · -- the question is the request for this frame
              rcases askServer_eq_some hask with ⟨-, hquestion⟩ | ⟨-, next, hno, -⟩
              · cases hquestion
                have hhandled : handled = (rpcRecognizeFace V observers u.server.db.users
                    (recognizeRequest V.imencode frame.1)).handled := hanswer
                have hok : ∀ message, handled.reply ≠ .error message := by
                  intro message herr
                  cases hreply.symm.trans herr
                show SignFor V u.server.db.users frame.1 (recognizeFace handled.reply).name
                rw [hhandled] at hok ⊢
                exact signFor_of_handled hok
              · cases hno

/-- Ann is seen; her row is deleted before the handler runs and the cache reloaded before its answer
arrives. -/
def annLeaves : List (NetworkEvent Nat) :=
  [.caller (2, [{}]), .server (.deleteSelected [(0, 1)]), .serve, .server (.loadToCache true),
    .deliver, .caller (2, [{}])]

/-- The window shows the name that was right while the loop was waiting. -/
theorem shown_names_ann :
    ∃ s, Run (recognition sampleVision 0 [7]).step (started sampleVision oneRow) annLeaves s ∧
      labelTexts 0 s.caller.callbacks = ["Ann"] ∧ s.server.db.users = [] ∧
      labelTexts 0 s.caller.callbacks =
        (visitStarts (passesMade sampleVision 0 [7] oneRow annLeaves)).map
          (textAt (passesMade sampleVision 0 [7] oneRow annLeaves)) := by
  have hcomputed : (exec (recognition sampleVision 0 [7]).step (started sampleVision oneRow)
      annLeaves).map (fun s => (labelTexts 0 s.caller.callbacks, s.server.db.users)) =
        some (["Ann"], []) := by decide +kernel
  obtain ⟨s, hs, hshown⟩ := Option.map_eq_some_iff.1 hcomputed
  have hrun := run_iff_exec.2 hs
  exact ⟨s, hrun, congrArg Prod.fst hshown, congrArg Prod.snd hshown, (shown_names _ _ _ hrun).1⟩

end ArmFaceID.Network
