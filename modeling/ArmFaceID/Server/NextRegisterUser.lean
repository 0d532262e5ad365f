import ArmFaceID.Server.Detector
import ArmFaceID.Library.Machine

/-!
# Whose frame is registered

A user to register travels in the one slot `next_register_user_`, the frame in a queue.
`NeedRegisterFace` writes the flag first and the slot second, and a later call writes the same slot.
So when the register thread takes a frame, the slot holds the user of the call that wrote last,
which need not be the call that had the frame queued (`frames_bound`, `slot_holds_iff`).

Calls are numbered from one in the order in which they begin. A frame carries the number of calls
begun before its capture, that is the number of the latest of them. Calls may overlap.
-/

set_option autoImplicit false

namespace ArmFaceID.Server

open ArmFaceID.Library

universe u

variable {Frame : Type u}

/-- The detector, and what has happened so far: the users of the calls begun, the calls between
their two writes, the call that wrote the slot last (`0` for none), and for each frame taken its
call and the user in the slot. -/
structure RegisterUsers (Frame : Type u) where
  detector : Detector (Frame × Nat) := {}
  begun : List User := []
  writing : List (Nat × User) := []
  written : Nat := 0
  taken : List (Nat × User) := []

inductive RegisterUsersEvent (Frame : Type u) where
  | beginNeedRegisterFace (user : User)
  | endNeedRegisterFace (call : Nat × User)
  | onFrameCaptured (frame : Frame)
  | registerIteration

/-- One step: either write of `NeedRegisterFace`, a capture, or an iteration of the register
thread. -/
def registerUsersStep (s : RegisterUsers Frame) :
    RegisterUsersEvent Frame → Option (RegisterUsers Frame)
  | .beginNeedRegisterFace user =>
      some { s with
        detector := s.detector.setNeedRegister
        begun := s.begun ++ [user]
        writing := s.writing ++ [(s.begun.length + 1, user)] }
  | .endNeedRegisterFace call =>
      if call ∈ s.writing then
        some { s with
          detector := s.detector.setNextRegisterUser call.2
          writing := s.writing.erase call
          written := call.1 }
      else none
  | .onFrameCaptured frame =>
      some { s with detector := s.detector.onFrameCaptured (frame, s.begun.length) }
  | .registerIteration =>
      match s.detector.popRegister with
      | none => some s
      | some (frame, detector) =>
          some { s with
            detector := detector
            taken := s.taken ++ [(frame.2, s.detector.nextRegisterUser)] }

/-- Both writes in a row are `NeedRegisterFace`. -/
theorem needRegisterFace_eq_writes (s : RegisterUsers Frame) (user : User) :
    (exec registerUsersStep s [.beginNeedRegisterFace user,
      .endNeedRegisterFace (s.begun.length + 1, user)]).map RegisterUsers.detector =
      some (s.detector.needRegisterFace user) := by
  simp [exec, registerUsersStep, Detector.needRegisterFace]

/-- The user of a call; number `0` stands for the initial content of the slot. -/
def callUser (begun : List User) (call : Nat) : Option User := ({} :: begun)[call]?

theorem callUser_snoc {begun : List User} {call : Nat} {user : User}
    (h : callUser begun call = some user) (next : User) :
    callUser (begun ++ [next]) call = some user := by
  obtain ⟨hlt, -⟩ := List.getElem?_eq_some_iff.1 h
  show (({} :: begun) ++ [next])[call]? = some user
  rw [List.getElem?_append_left hlt]
  exact h

theorem callUser_snoc_last (begun : List User) (next : User) :
    callUser (begun ++ [next]) (begun.length + 1) = some next := by
  simp [callUser]

/-- Every frame taken met the user of the call that had it queued: the latest one begun before its
capture. -/
def FramesBound (s : RegisterUsers Frame) : Prop :=
  ∀ p ∈ s.taken, 0 < p.1 ∧ callUser s.begun p.1 = some p.2

/-- If the step takes a frame, the call that had it queued is the one that wrote the slot last. -/
def WrittenLast (s : RegisterUsers Frame) : RegisterUsersEvent Frame → Prop
  | .registerIteration => ∀ frame ∈ s.detector.registerQueue.head?, s.written = frame.2
  | _ => True

/-- What holds in every state: the slot and the pending writes hold their calls' users, and a frame
is queued only after some call has begun. -/
structure RegisterUsersInvariant (s : RegisterUsers Frame) : Prop where
  slot : callUser s.begun s.written = some s.detector.nextRegisterUser
  writing : ∀ c ∈ s.writing, callUser s.begun c.1 = some c.2
  flag : s.detector.needRegister = true → 0 < s.begun.length
  queued : ∀ frame ∈ s.detector.registerQueue, 0 < frame.2

section Step

variable {s t : RegisterUsers Frame} {e : RegisterUsersEvent Frame}

theorem registerIteration_cases (ht : registerUsersStep s .registerIteration = some t) :
    t = s ∨ ∃ frame detector, s.detector.registerQueue = frame :: detector.registerQueue ∧
      detector.needRegister = s.detector.needRegister ∧
      detector.nextRegisterUser = s.detector.nextRegisterUser ∧
      t = { s with
        detector := detector
        taken := s.taken ++ [(frame.2, s.detector.nextRegisterUser)] } := by
  simp only [registerUsersStep] at ht
  split at ht
  · cases ht
    exact Or.inl rfl
  · next frame detector hpop =>
      obtain ⟨hqueue, hneed, -, hslot⟩ := Detector.popRegister_eq_some hpop
      cases ht
      exact Or.inr ⟨frame, detector, hqueue, hneed, hslot, rfl⟩

theorem endNeedRegisterFace_eq {call : Nat × User}
    (ht : registerUsersStep s (.endNeedRegisterFace call) = some t) :
    call ∈ s.writing ∧ t = { s with
      detector := s.detector.setNextRegisterUser call.2
      writing := s.writing.erase call
      written := call.1 } := by
  simp only [registerUsersStep] at ht
  split at ht
  · next hcall =>
      cases ht
      exact ⟨hcall, rfl⟩
  · cases ht

theorem registerUsersInvariant_step (hinv : RegisterUsersInvariant s)
    (ht : registerUsersStep s e = some t) : RegisterUsersInvariant t := by
  cases e with
  | beginNeedRegisterFace user =>
      cases ht
      refine ⟨callUser_snoc hinv.slot user, ?_, fun _ => by simp, hinv.queued⟩
      intro c hc
      rcases List.mem_append.1 hc with hc | hc
      · exact callUser_snoc (hinv.writing c hc) user
      · rw [List.mem_singleton.1 hc]
        exact callUser_snoc_last s.begun user
  | endNeedRegisterFace call =>
      obtain ⟨hcall, rfl⟩ := endNeedRegisterFace_eq ht
      refine ⟨hinv.writing call hcall, ?_, hinv.flag, hinv.queued⟩
      intro c hc
      exact hinv.writing c (List.mem_of_mem_erase hc)
  | onFrameCaptured frame =>
      cases ht
      refine ⟨?_, hinv.writing, ?_, ?_⟩
      · rw [Detector.onFrameCaptured_nextRegisterUser]
        exact hinv.slot
      · intro h
        rw [Detector.onFrameCaptured_needRegister] at h
        cases h
      · intro f hf
        rw [Detector.onFrameCaptured_registerQueue] at hf
        rcases List.mem_append.1 hf with hf | hf
        · exact hinv.queued f hf
        · -- queued now: the flag is up, so a call has begun
          split at hf
          · next hflag =>
              rw [List.mem_singleton.1 hf]
              exact hinv.flag hflag
          · cases hf
  | registerIteration =>
      rcases registerIteration_cases ht with rfl | ⟨frame, detector, hqueue, hneed, hslot, rfl⟩
      · exact hinv
      · refine ⟨?_, hinv.writing, ?_, ?_⟩
        · show callUser s.begun s.written = some detector.nextRegisterUser
          rw [hslot]
          exact hinv.slot
        · show detector.needRegister = true → 0 < s.begun.length
          rw [hneed]
          exact hinv.flag
        · intro f hf
          apply hinv.queued f
          rw [hqueue]
          exact List.mem_cons_of_mem _ hf

/-- Frames taken keep their users, and one taken under the guard meets its own. -/
theorem framesBound_step (hinv : RegisterUsersInvariant s) (hbound : FramesBound s)
    (hguard : WrittenLast s e) (ht : registerUsersStep s e = some t) : FramesBound t := by
  cases e with
  | beginNeedRegisterFace user =>
      cases ht
      intro p hp
      exact ⟨(hbound p hp).1, callUser_snoc (hbound p hp).2 user⟩
  | endNeedRegisterFace call =>
      obtain ⟨-, rfl⟩ := endNeedRegisterFace_eq ht
      exact hbound
  | onFrameCaptured frame =>
      cases ht
      exact hbound
  | registerIteration =>
      rcases registerIteration_cases ht with rfl | ⟨frame, detector, hqueue, -, -, rfl⟩
      · exact hbound
      · have hwritten : s.written = frame.2 := by
          apply hguard
          rw [hqueue]
          rfl
        intro p hp
        rcases List.mem_append.1 hp with hp | hp
        · exact hbound p hp
        · rw [List.mem_singleton.1 hp]
          refine ⟨hinv.queued frame (by rw [hqueue]; exact List.mem_cons_self), ?_⟩
          rw [← hwritten]
          exact hinv.slot

theorem registerUsersInvariant_init :
    RegisterUsersInvariant ({} : RegisterUsers Frame) := by
  refine ⟨rfl, ?_, ?_, ?_⟩
  · intro c hc
    cases hc
  · intro h
    cases h
  · intro f hf
    cases hf

/-- When the calls pass different users, none of them the initial content of the slot, the slot holds
the user of a call exactly if that call wrote last: the guard leaves nothing out. -/
theorem slot_holds_iff {es : List (RegisterUsersEvent Frame)} (h : Run registerUsersStep {} es s)
    (hdiff : (({} : User) :: s.begun).Nodup) (call : Nat) :
    callUser s.begun call = some s.detector.nextRegisterUser ↔ s.written = call := by
  have hinv : RegisterUsersInvariant s :=
    h.invariant registerUsersInvariant_init fun _ _ _ => registerUsersInvariant_step
  constructor
  · intro hcall
    obtain ⟨hlt, -⟩ := List.getElem?_eq_some_iff.1 hinv.slot
    exact (List.getElem?_inj hlt hdiff).1 (hinv.slot.trans hcall.symm)
  · intro hwritten
    rw [← hwritten]
    exact hinv.slot

end Step

/-- **Frames stay bound to their users** along every run in which the register thread takes a frame
only when the call that had it queued is the one that wrote the slot last. -/
theorem frames_bound {es : List (RegisterUsersEvent Frame)} {s : RegisterUsers Frame}
    (h : GuardedRun registerUsersStep WrittenLast {} es s) : FramesBound s := by
  have hboth : RegisterUsersInvariant s ∧ FramesBound s := by
    apply GuardedRun.invariant (I := fun s => RegisterUsersInvariant s ∧ FramesBound s) _ _ h
    · exact ⟨registerUsersInvariant_init, fun p hp => absurd hp List.not_mem_nil⟩
    · intro s e t hs hguard ht
      exact ⟨registerUsersInvariant_step hs.1 ht, framesBound_step hs.1 hs.2 hguard ht⟩
  exact hboth.2

def ann : User := { nickName := "Ann" }

def bob : User := { nickName := "Bob" }

/-- A request, the capture that takes it, and the frame taken after both writes. -/
theorem frames_bound_ann :
    ∃ s, GuardedRun registerUsersStep WrittenLast {}
        [.beginNeedRegisterFace ann, .endNeedRegisterFace (1, ann), .onFrameCaptured 10,
          .registerIteration] s ∧
      s.taken = [(1, ann)] ∧ FramesBound s := by
  have hrun : GuardedRun registerUsersStep WrittenLast {}
      [.beginNeedRegisterFace ann, .endNeedRegisterFace (1, ann), .onFrameCaptured 10,
        .registerIteration] _ :=
    .snoc (.snoc (.snoc (.snoc .nil trivial rfl) trivial rfl) trivial rfl)
      (by rintro frame ⟨⟩; rfl) rfl
  exact ⟨_, hrun, rfl, frames_bound hrun⟩

/-- Bob's request has raised the flag but not yet written the slot: his frame meets Ann. -/
theorem frames_not_bound :
    ∃ s, Run registerUsersStep {}
        [.beginNeedRegisterFace ann, .endNeedRegisterFace (1, ann), .onFrameCaptured 10,
          .registerIteration, .beginNeedRegisterFace bob, .onFrameCaptured 11,
          .registerIteration] s ∧
      s.taken = [(1, ann), (2, ann)] ∧ s.begun = [ann, bob] ∧ ¬ FramesBound s := by
  refine ⟨_, .snoc (.snoc (.snoc (.snoc (.snoc (.snoc (.snoc .nil rfl) rfl) rfl) rfl) rfl) rfl) rfl,
    rfl, rfl, ?_⟩
  intro hbound
  have hbob := (hbound (2, ann) (by decide)).2
  revert hbob
  decide

end ArmFaceID.Server
