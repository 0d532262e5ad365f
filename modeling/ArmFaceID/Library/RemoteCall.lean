import ArmFaceID.Library.Outputs

/-!
# One caller, one server, and a channel that fails

A caller works through events. Some it deals with alone; for others it asks the server a question
and waits, doing nothing else, until it is answered or told that the call has failed. A call may
fail before the server has seen the question or after the server has answered it. Meanwhile the
server goes on with operations of its own.

* `callerRun`: the caller's part of a run is a run of the caller by itself, in which each event comes
  with the reply it got (`turns`).
* `answeredWhen`: an answer delivered is the server's answer to the question asked, in the state the
  server was in at a moment between the question and the delivery.
* `serves_le`: no question is answered twice.
-/

set_option autoImplicit false

namespace ArmFaceID.Library

universe u

/-- What the two parties do. `C` and `S` are their states, `E` and `F` the events each deals with,
`Q` and `A` questions and answers, `X` failures of a call. -/
structure RemoteCall (C S E F Q A X : Type u) where
  /-- The caller's next state, or a question. -/
  ask : C → E → Option (C ⊕ Q)
  /-- The caller's next state after an event it has asked about. -/
  resume : C → E → Except X A → Option C
  /-- The server's answer, and its state afterwards. -/
  serve : S → Q → A × S
  /-- An operation of the server's own. -/
  operate : S → F → Option S

/-- Where the caller's call is. -/
inductive CallPhase (E Q A : Type u) where
  | idle
  | asked (event : E) (question : Q)
  | answered (event : E) (answer : A)

/-- The caller, its call and the server. -/
structure RemoteState (C S E Q A : Type u) where
  caller : C
  phase : CallPhase E Q A := .idle
  server : S

inductive RemoteEvent (E F X : Type u) where
  | caller (event : E)
  | serve
  | deliver
  | fail (failure : X)
  | server (operation : F)

namespace RemoteCall

variable {C S E F Q A X : Type u} (P : RemoteCall C S E F Q A X)

/-- One step. A caller that waits takes up no event. -/
def step (s : RemoteState C S E Q A) : RemoteEvent E F X → Option (RemoteState C S E Q A)
  | .caller event =>
      match s.phase, P.ask s.caller event with
      | .idle, some (.inl caller) => some { s with caller := caller }
      | .idle, some (.inr question) => some { s with phase := .asked event question }
      | _, _ => none
  | .serve =>
      match s.phase with
      | .asked event question =>
          let (answer, server) := P.serve s.server question
          some { s with phase := .answered event answer, server := server }
      | _ => none
  | .deliver =>
      match s.phase with
      | .answered event answer =>
          (P.resume s.caller event (.ok answer)).map fun caller =>
            { s with caller := caller, phase := .idle }
      | _ => none
  | .fail failure =>
      match s.phase with
      | .idle => none
      | .asked event _ =>
          (P.resume s.caller event (.error failure)).map fun caller =>
            { s with caller := caller, phase := .idle }
      -- the server has answered, and the answer is lost
      | .answered event _ =>
          (P.resume s.caller event (.error failure)).map fun caller =>
            { s with caller := caller, phase := .idle }
  | .server operation => (P.operate s.server operation).map fun server => { s with server := server }

/-! ## The caller by itself -/

/-- An event the caller is done with, and the reply it got if it has asked. -/
abbrev Turn (E A X : Type u) := E × Option (Except X A)

/-- The caller by itself: an event with its reply. -/
def turnStep (caller : C) (turn : Turn E A X) : Option C :=
  match P.ask caller turn.1, turn.2 with
  | some (.inl next), none => some next
  | some (.inr _), some reply => P.resume caller turn.1 reply
  | _, _ => none

/-- What one turn of the caller does. -/
theorem turnStep_eq_some {P : RemoteCall C S E F Q A X} {caller next : C} {turn : Turn E A X}
    (h : P.turnStep caller turn = some next) :
    (turn.2 = none ∧ P.ask caller turn.1 = some (.inl next)) ∨
      ∃ question reply, turn.2 = some reply ∧ P.ask caller turn.1 = some (.inr question) ∧
        P.resume caller turn.1 reply = some next := by
  obtain ⟨event, reply⟩ := turn
  cases hask : P.ask caller event with
  | none =>
      simp only [turnStep, hask] at h
      cases h
  | some asked =>
      cases asked with
      | inl caller' =>
          cases reply with
          | none =>
              simp only [turnStep, hask] at h
              cases h
              exact Or.inl ⟨rfl, rfl⟩
          | some reply =>
              simp only [turnStep, hask] at h
              cases h
      | inr question =>
          cases reply with
          | none =>
              simp only [turnStep, hask] at h
              cases h
          | some reply =>
              simp only [turnStep, hask] at h
              exact Or.inr ⟨question, reply, rfl, rfl, h⟩

/-- The event a step brings to an end. -/
def turnEnded (s : RemoteState C S E Q A) : RemoteEvent E F X → List (Turn E A X)
  | .caller event =>
      match P.ask s.caller event with
      | some (.inl _) => [(event, none)]
      | _ => []
  | .serve => []
  | .deliver =>
      match s.phase with
      | .answered event answer => [(event, some (.ok answer))]
      | _ => []
  | .fail failure =>
      match s.phase with
      | .idle => []
      | .asked event _ => [(event, some (.error failure))]
      | .answered event _ => [(event, some (.error failure))]
  | .server _ => []

/-- The events the caller is done with after `es`. -/
def turns (s₀ : RemoteState C S E Q A) (es : List (RemoteEvent E F X)) : List (Turn E A X) :=
  outputs P.step P.turnEnded s₀ es

/-- The question of an event is answered at the end of `seen`, when the caller was done with `before`
and was waiting for it. -/
def AnsweredAfter (s₀ : RemoteState C S E Q A) (seen : List (RemoteEvent E F X))
    (before : List (Turn E A X)) (event : E) (answer : A) : Prop :=
  ∃ u question, Run P.step s₀ seen u ∧ P.turns s₀ seen = before ∧
    P.ask u.caller event = some (.inr question) ∧ answer = (P.serve u.server question).1

/-- What a run keeps: the caller has done what it does by itself, and every answer that is under way
or was delivered was given during its own call. -/
structure Invariant (s₀ : RemoteState C S E Q A) (es : List (RemoteEvent E F X))
    (out : List (Turn E A X)) (s : RemoteState C S E Q A) : Prop where
  alone : Run P.turnStep s₀.caller out s.caller
  asked : ∀ event question, s.phase = .asked event question →
    P.ask s.caller event = some (.inr question)
  underway : ∀ event answer, s.phase = .answered event answer →
    (∃ question, P.ask s.caller event = some (.inr question)) ∧
      ∃ seen, seen ++ [.serve] <+: es ∧ P.AnsweredAfter s₀ seen out event answer
  delivered : ∀ k event answer, out[k]? = some (event, some (.ok answer)) →
    ∃ seen, seen ++ [.serve] <+: es ∧ P.AnsweredAfter s₀ seen (out.take k) event answer

section Runs

variable {P} {s₀ s t : RemoteState C S E Q A} {es : List (RemoteEvent E F X)}
  {out : List (Turn E A X)} {e : RemoteEvent E F X}

theorem invariant_init (h : s₀.phase = .idle) : P.Invariant s₀ [] [] s₀ where
  alone := .nil
  asked event question hphase := by
    rw [h] at hphase
    cases hphase
  underway event answer hphase := by
    rw [h] at hphase
    cases hphase
  delivered k event answer hk := by simp at hk

/-- Answers delivered earlier stay as they are when the run goes on. -/
theorem Invariant.delivered_of_prefix (hinv : P.Invariant s₀ es out s) (e : RemoteEvent E F X)
    (k : Nat) (event : E) (answer : A) (hk : out[k]? = some (event, some (.ok answer))) :
    ∃ seen, seen ++ [.serve] <+: es ++ [e] ∧ P.AnsweredAfter s₀ seen (out.take k) event answer := by
  obtain ⟨seen, hseen, hans⟩ := hinv.delivered k event answer hk
  exact ⟨seen, hseen.trans (List.prefix_append es [e]), hans⟩

/-- One more turn that delivers no answer. -/
theorem Invariant.delivered_snoc (hinv : P.Invariant s₀ es out s) (e : RemoteEvent E F X)
    {turn : Turn E A X}
    (hturn : ∀ event answer, turn = (event, some (.ok answer)) →
      ∃ seen, seen ++ [.serve] <+: es ++ [e] ∧ P.AnsweredAfter s₀ seen out event answer)
    (k : Nat) (event : E) (answer : A)
    (hk : (out ++ [turn])[k]? = some (event, some (.ok answer))) :
    ∃ seen, seen ++ [.serve] <+: es ++ [e] ∧
      P.AnsweredAfter s₀ seen ((out ++ [turn]).take k) event answer := by
  rcases Nat.lt_trichotomy k out.length with hlt | heq | hgt
  · rw [List.getElem?_append_left hlt] at hk
    rw [List.take_append_of_le_length (Nat.le_of_lt hlt)]
    exact hinv.delivered_of_prefix e k event answer hk
  · -- the new turn
    rw [heq, List.getElem?_concat_length] at hk
    rw [heq, List.take_left]
    exact hturn event answer (Option.some.inj hk)
  · have hlong : (out ++ [turn]).length ≤ k := by
      rw [List.length_append, List.length_singleton]
      exact hgt
    rw [List.getElem?_eq_none hlong] at hk
    cases hk

/-- A step that ends no turn and leaves caller and call. -/
theorem Invariant.of_same (hinv : P.Invariant s₀ es out s) (e : RemoteEvent E F X)
    (hcaller : t.caller = s.caller) (hphase : t.phase = s.phase) :
    P.Invariant s₀ (es ++ [e]) out t where
  alone := by
    rw [hcaller]
    exact hinv.alone
  asked event question h := by
    rw [hcaller]
    exact hinv.asked event question (hphase.symm.trans h)
  underway event answer h := by
    rw [hcaller]
    obtain ⟨hasked, seen, hseen, hans⟩ := hinv.underway event answer (hphase.symm.trans h)
    exact ⟨hasked, seen, hseen.trans (List.prefix_append es [e]), hans⟩
  delivered := hinv.delivered_of_prefix e

/-- The end of a turn: nothing is asked any more. -/
theorem Invariant.of_turn (hinv : P.Invariant s₀ es out s) (e : RemoteEvent E F X)
    {turn : Turn E A X} (hidle : t.phase = .idle)
    (hstep : P.turnStep s.caller turn = some t.caller)
    (hturn : ∀ event answer, turn = (event, some (.ok answer)) →
      ∃ seen, seen ++ [.serve] <+: es ++ [e] ∧ P.AnsweredAfter s₀ seen out event answer) :
    P.Invariant s₀ (es ++ [e]) (out ++ [turn]) t where
  alone := .snoc hinv.alone hstep
  asked event question h := by
    rw [hidle] at h
    cases h
  underway event answer h := by
    rw [hidle] at h
    cases h
  delivered := hinv.delivered_snoc e hturn

theorem turnStep_of_resume {event : E} {question : Q} {reply : Except X A} {next : C}
    (hask : P.ask s.caller event = some (.inr question))
    (hresume : P.resume s.caller event reply = some next) :
    P.turnStep s.caller (event, some reply) = some next := by
  simp only [turnStep, hask, hresume]

theorem invariant_step (hinv : P.Invariant s₀ es out s) (hrun : Run P.step s₀ es s)
    (hout : out = P.turns s₀ es) (ht : P.step s e = some t) :
    P.Invariant s₀ (es ++ [e]) (out ++ P.turnEnded s e) t := by
  cases e with
  | caller event =>
      simp only [step] at ht
      split at ht
      · next caller hidle hask =>
          -- the caller deals with the event alone
          cases ht
          have hended : P.turnEnded s (.caller event : RemoteEvent E F X) = [(event, none)] := by
            simp only [turnEnded, hask]
          have hstill : ({ s with caller := caller } : RemoteState C S E Q A).phase = .idle := hidle
          rw [hended]
          apply hinv.of_turn _ hstill
          · simp only [turnStep, hask]
          · intro event' answer h
            cases h
      · next question hidle hask =>
          cases ht
          have hended : P.turnEnded s (.caller event : RemoteEvent E F X) = [] := by
            simp only [turnEnded, hask]
          rw [hended, List.append_nil]
          refine ⟨hinv.alone, ?_, ?_, hinv.delivered_of_prefix _⟩
          · intro event' question' h
            cases h
            exact hask
          · intro event' answer h
            cases h
      · cases ht
  | serve =>
      simp only [step] at ht
      split at ht
      · next event question hphase =>
          cases ht
          have hask := hinv.asked event question hphase
          refine ⟨?_, ?_, ?_, ?_⟩
          · simp only [turnEnded, List.append_nil]
            exact hinv.alone
          · intro event' question' h
            cases h
          · intro event' answer h
            cases h
            simp only [turnEnded, List.append_nil]
            exact ⟨⟨question, hask⟩, es, List.prefix_refl _, s, question, hrun, hout.symm, hask, rfl⟩
          · simp only [turnEnded, List.append_nil]
            exact hinv.delivered_of_prefix _
      · cases ht
  | deliver =>
      simp only [step] at ht
      split at ht
      · next event answer hphase =>
          obtain ⟨caller, hresume, rfl⟩ := Option.map_eq_some_iff.1 ht
          obtain ⟨⟨question, hask⟩, seen, hseen, hans⟩ := hinv.underway event answer hphase
          have hended : P.turnEnded s (.deliver : RemoteEvent E F X) =
              [(event, some (.ok answer))] := by
            simp only [turnEnded, hphase]
          rw [hended]
          apply hinv.of_turn _ rfl (turnStep_of_resume hask hresume)
          intro event' answer' h
          cases h
          exact ⟨seen, hseen.trans (List.prefix_append es _), hans⟩
      · cases ht
  | fail failure =>
      simp only [step] at ht
      split at ht
      · cases ht
      · next event question hphase =>
          obtain ⟨caller, hresume, rfl⟩ := Option.map_eq_some_iff.1 ht
          have hended : P.turnEnded s (.fail failure : RemoteEvent E F X) =
              [(event, some (.error failure))] := by
            simp only [turnEnded, hphase]
          rw [hended]
          apply hinv.of_turn _ rfl
            (turnStep_of_resume (hinv.asked event question hphase) hresume)
          intro event' answer' h
          cases h
      · next event answer hphase =>
          obtain ⟨caller, hresume, rfl⟩ := Option.map_eq_some_iff.1 ht
          obtain ⟨⟨question, hask⟩, -⟩ := hinv.underway event answer hphase
          have hended : P.turnEnded s (.fail failure : RemoteEvent E F X) =
              [(event, some (.error failure))] := by
            simp only [turnEnded, hphase]
          rw [hended]
          apply hinv.of_turn _ rfl (turnStep_of_resume hask hresume)
          intro event' answer' h
          cases h
  | server operation =>
      obtain ⟨server, -, rfl⟩ := Option.map_eq_some_iff.1 ht
      simp only [turnEnded, List.append_nil]
      exact hinv.of_same _ rfl rfl

theorem invariant_run (hidle : s₀.phase = .idle) (h : Run P.step s₀ es s) :
    P.Invariant s₀ es (P.turns s₀ es) s := by
  induction h with
  | nil => exact invariant_init hidle
  | snoc hrun hstep ih =>
      rw [turns, hrun.outputs_snoc hstep]
      exact invariant_step ih hrun rfl hstep

/-- The caller's part of a run is a run of the caller by itself. -/
theorem callerRun (hidle : s₀.phase = .idle) (h : Run P.step s₀ es s) :
    Run P.turnStep s₀.caller (P.turns s₀ es) s.caller := (invariant_run hidle h).alone

/-- An answer delivered was given by the server during the call. -/
theorem answeredWhen (hidle : s₀.phase = .idle) (h : Run P.step s₀ es s) {k : Nat} {event : E}
    {answer : A} (hk : (P.turns s₀ es)[k]? = some (event, some (.ok answer))) :
    ∃ seen, seen ++ [.serve] <+: es ∧
      P.AnsweredAfter s₀ seen ((P.turns s₀ es).take k) event answer :=
  (invariant_run hidle h).delivered k event answer hk

end Runs

/-! ## How often the server answers -/

/-- The turns in which the caller has asked. -/
def calls (out : List (Turn E A X)) : Nat := out.countP fun turn => turn.2.isSome

/-- An answer is under way. -/
def pending : CallPhase E Q A → Nat
  | .answered _ _ => 1
  | _ => 0

def isServe : RemoteEvent E F X → Bool
  | .serve => true
  | _ => false

/-- One step brings as many answers into being as it brings calls to an end, at most. -/
theorem serves_step {s t : RemoteState C S E Q A} {e : RemoteEvent E F X}
    (ht : P.step s e = some t) :
    (if isServe e then 1 else 0) + pending s.phase ≤ calls (P.turnEnded s e) + pending t.phase := by
  cases e with
  | caller event =>
      simp only [step] at ht
      split at ht
      · next caller hidle hask =>
          cases ht
          simp [isServe]
      · next question hidle hask =>
          cases ht
          simp [isServe, pending, hidle]
      · cases ht
  | serve =>
      simp only [step] at ht
      split at ht
      · next event question hphase =>
          cases ht
          simp [isServe, pending, hphase]
      · cases ht
  | deliver =>
      simp only [step] at ht
      split at ht
      · next event answer hphase =>
          obtain ⟨caller, -, rfl⟩ := Option.map_eq_some_iff.1 ht
          simp [isServe, pending, hphase, turnEnded, calls]
      · cases ht
  | fail failure =>
      simp only [step] at ht
      split at ht
      · cases ht
      · next event question hphase =>
          obtain ⟨caller, -, rfl⟩ := Option.map_eq_some_iff.1 ht
          simp [isServe, pending, hphase]
      · next event answer hphase =>
          obtain ⟨caller, -, rfl⟩ := Option.map_eq_some_iff.1 ht
          simp [isServe, pending, hphase, turnEnded, calls]
  | server operation =>
      obtain ⟨server, -, rfl⟩ := Option.map_eq_some_iff.1 ht
      simp [isServe]

/-- The server answers at most once for each call that has ended, and once for the one under way. -/
theorem serves_le {s₀ s : RemoteState C S E Q A} {es : List (RemoteEvent E F X)}
    (h : Run P.step s₀ es s) : es.countP isServe ≤ calls (P.turns s₀ es) + pending s.phase := by
  apply h.outputs_invariant (I := fun es out s => es.countP isServe ≤ calls out + pending s.phase)
  · exact Nat.zero_le _
  · intro es out s e t hle ht
    have hstep := serves_step P ht
    rw [calls, List.countP_append, List.countP_append, List.countP_singleton]
    simp only [calls] at *
    omega

end RemoteCall

end ArmFaceID.Library
