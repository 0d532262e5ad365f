import ArmFaceID.Interface
import ArmFaceID.Library.Subscribers

/-!
# Observer subscription

`AddObserver` and `removeObserver` of the three classes in `utils/interface.h`, and the two loops
that call the observers: the capture loop of `FaceCamera::OpenAndStart` and the notifications of a
detector (`notifyAll`). A shared pointer that may be null is an `Option`. Subscriptions change
between notifications only.

A camera and a detector behave as a hub (`observer_laws`).
-/

set_option autoImplicit false

namespace ArmFaceID.Utils

open ArmFaceID.Library

universe u

variable {Frame Msg : Type u}

/-! ## The three classes -/

/-- The body of `AddObserver`. -/
def pushObserver (observers : List Observer) (observer : Option Observer) : List Observer :=
  match observer with
  | some o => observers ++ [o]
  | none => observers

/-- The body of `removeObserver`: `std::find`, then `erase`. -/
def eraseObserver (observers : List Observer) (observer : Option Observer) : List Observer :=
  match observer with
  | some o =>
      match observers.idxOf? o with
      | some position => observers.eraseIdx position
      | none => observers
  | none => observers

/-- `FaceDetector<MsgType>::AddObserver`. -/
def FaceDetector.addObserver := pushObserver

/-- `FaceDetector<MsgType>::removeObserver`. -/
def FaceDetector.removeObserver := eraseObserver

/-- `FaceDetector<int64_t>::AddObserver`. -/
def FaceDetectorInt64.addObserver := pushObserver

/-- `FaceDetector<int64_t>::removeObserver`. -/
def FaceDetectorInt64.removeObserver := eraseObserver

/-- `Camera::AddObserver`. -/
def Camera.addObserver := pushObserver

/-- `Camera::removeObserver`. -/
def Camera.removeObserver := eraseObserver

/-- The calls of `OnFrameCaptured` in one pass of the capture loop; an empty frame makes none. -/
def capturePass (isEmpty : Frame → Bool) (observers : List Observer) (frame : Frame) :
    List (Observer × Frame) :=
  if isEmpty frame then [] else observers.map fun iter => (iter, frame)

/-! ## Runs -/

/-- An object that keeps observers, with the calls it has made on them. -/
structure Subject (Msg : Type u) where
  observers : List Observer := []
  calls : List (Observer × Msg) := []

/-- What is done to such an object. A notification carries what the observers are told. -/
inductive SubjectEvent (Msg : Type u) where
  | addObserver (observer : Option Observer)
  | removeObserver (observer : Option Observer)
  | notify (msg : Msg)

/-- One event, for a class with the given operations. -/
def subjectStep (add remove : List Observer → Option Observer → List Observer)
    (deliver : List Observer → Msg → List (Observer × Msg)) (s : Subject Msg) :
    SubjectEvent Msg → Subject Msg
  | .addObserver observer => { s with observers := add s.observers observer }
  | .removeObserver observer => { s with observers := remove s.observers observer }
  | .notify msg => { s with calls := s.calls ++ deliver s.observers msg }

/-- A camera; a notification is a pass of the capture loop with the frame grabbed. -/
def cameraStep (isEmpty : Frame → Bool) : Subject Frame → SubjectEvent Frame → Subject Frame :=
  subjectStep Camera.addObserver Camera.removeObserver (capturePass isEmpty)

/-- A `FaceDetector<int64_t>`. -/
def detectorStep : Subject (Callback Frame Int) → SubjectEvent (Callback Frame Int) →
    Subject (Callback Frame Int) :=
  subjectStep FaceDetectorInt64.addObserver FaceDetectorInt64.removeObserver notifyAll

/-! ## What observers may expect -/

/-- An observer's multiplicity after an event. -/
def multiplicityAfter (o : Observer) (n : Nat) : SubjectEvent Msg → Nat
  | .addObserver (some o') => if o' = o then n + 1 else n
  | .removeObserver (some o') => if o' = o then n - 1 else n
  | _ => n

/-- An observer's multiplicity after a run. -/
def multiplicity (o : Observer) (es : List (SubjectEvent Msg)) : Nat :=
  es.foldl (multiplicityAfter o) 0

/-- The messages that are heard, each as often as the observer's multiplicity at that moment, for an
observer whose multiplicity is `n` at the start. -/
def messagesDue (heard : Msg → Bool) (o : Observer) : Nat → List (SubjectEvent Msg) → List Msg
  | _, [] => []
  | n, .notify msg :: es =>
      (if heard msg then List.replicate n msg else []) ++ messagesDue heard o n es
  | n, e :: es => messagesDue heard o (multiplicityAfter o n e) es

/-- What the observers of an object may expect after the events `es`. -/
structure ObserverLaws (remove : List Observer → Option Observer → List Observer)
    (deliver : List Observer → Msg → List (Observer × Msg)) (heard : Msg → Bool)
    (es : List (SubjectEvent Msg)) (s : Subject Msg) : Prop where
  callbacks : ∀ o msg, received o (deliver s.observers msg) =
    if heard msg then List.replicate (multiplicity o es) msg else []
  order : ∀ removed msg,
    (deliver (remove s.observers (some removed)) msg).filter (fun c => decide (c.1 ≠ removed)) =
      (deliver s.observers msg).filter fun c => decide (c.1 ≠ removed)
  history : ∀ o, received o s.calls = messagesDue heard o 0 es

section Hub

variable (heard : Msg → Bool)

/-- The object as a hub. -/
def Subject.hub (s : Subject Msg) : Hub Observer Msg := ⟨s.observers, s.calls⟩

/-- The event as a step of a hub. A null pointer and a message that is not heard do nothing. -/
def SubjectEvent.hubEvent : SubjectEvent Msg → HubEvent Observer Msg
  | .addObserver (some o) => .subscribe o
  | .removeObserver (some o) => .unsubscribe o
  | .notify msg => if heard msg then .publish msg else .idle
  | _ => .idle

theorem eraseObserver_some (observers : List Observer) (o : Observer) :
    eraseObserver observers (some o) = observers.erase o := by
  rw [eraseObserver, List.erase_eq_eraseIdx]
  cases observers.idxOf? o with
  | none => rfl
  | some position => rfl

/-- Delivery in the order of the list, of the messages heard. -/
def DeliversInOrder (deliver : List Observer → Msg → List (Observer × Msg)) : Prop :=
  ∀ observers msg, deliver observers msg =
    if heard msg then observers.map fun iter => (iter, msg) else []

variable {heard} {deliver : List Observer → Msg → List (Observer × Msg)}

/-- One event is one step of the hub. -/
theorem hub_subjectStep (h : DeliversInOrder heard deliver) (s : Subject Msg)
    (e : SubjectEvent Msg) :
    (subjectStep pushObserver eraseObserver deliver s e).hub = s.hub.step (e.hubEvent heard) := by
  cases e with
  | addObserver observer =>
      cases observer with
      | none => rfl
      | some o => rfl
  | removeObserver observer =>
      cases observer with
      | none => rfl
      | some o =>
          show (⟨eraseObserver s.observers (some o), s.calls⟩ : Hub Observer Msg) = _
          rw [eraseObserver_some]
          rfl
  | notify msg =>
      show (⟨s.observers, s.calls ++ deliver s.observers msg⟩ : Hub Observer Msg) = _
      rw [h, SubjectEvent.hubEvent]
      by_cases hm : heard msg
      · rw [if_pos hm, if_pos hm]
        rfl
      · rw [if_neg hm, if_neg hm, List.append_nil]
        rfl

theorem hub_run (h : DeliversInOrder heard deliver) (s : Subject Msg)
    (es : List (SubjectEvent Msg)) :
    (es.foldl (subjectStep pushObserver eraseObserver deliver) s).hub =
      s.hub.run (es.map (SubjectEvent.hubEvent heard)) := by
  induction es generalizing s with
  | nil => rfl
  | cons e es ih =>
      rw [List.foldl_cons, ih, hub_subjectStep h, List.map_cons]
      rfl

theorem copiesAfter_hubEvent (o : Observer) (n : Nat) (e : SubjectEvent Msg) :
    copiesAfter o n (e.hubEvent heard) = multiplicityAfter o n e := by
  cases e with
  | addObserver observer => cases observer <;> rfl
  | removeObserver observer => cases observer <;> rfl
  | notify msg =>
      rw [SubjectEvent.hubEvent]
      split <;> rfl

theorem copies_hubEvent (o : Observer) (n : Nat) (es : List (SubjectEvent Msg)) :
    copies o n (es.map (SubjectEvent.hubEvent heard)) = es.foldl (multiplicityAfter o) n := by
  induction es generalizing n with
  | nil => rfl
  | cons e es ih =>
      show copies o (copiesAfter o n (e.hubEvent heard)) (es.map (SubjectEvent.hubEvent heard)) = _
      rw [copiesAfter_hubEvent, ih, List.foldl_cons]

theorem due_hubEvent (o : Observer) (n : Nat) (es : List (SubjectEvent Msg)) :
    due o n (es.map (SubjectEvent.hubEvent heard)) = messagesDue heard o n es := by
  induction es generalizing n with
  | nil => rfl
  | cons e es ih =>
      cases e with
      | addObserver observer => cases observer <;> exact ih _
      | removeObserver observer => cases observer <;> exact ih _
      | notify msg =>
          rw [List.map_cons, SubjectEvent.hubEvent, messagesDue]
          by_cases hm : heard msg
          · rw [if_pos hm, if_pos hm, due, ih]
          · rw [if_neg hm, if_neg hm, List.nil_append]
            exact ih n

/-- The laws of a class whose delivery follows the list. -/
theorem observerLaws_of_deliversInOrder (h : DeliversInOrder heard deliver)
    (es : List (SubjectEvent Msg)) :
    ObserverLaws eraseObserver deliver heard es
      (es.foldl (subjectStep pushObserver eraseObserver deliver) {}) := by
  have hrun := hub_run h {} es
  have hcount : ∀ o,
      (es.foldl (subjectStep pushObserver eraseObserver deliver) {}).observers.count o =
        multiplicity o es := by
    intro o
    have hc := count_run o (Subject.hub {}) (es.map (SubjectEvent.hubEvent heard))
    rw [← hrun, copies_hubEvent] at hc
    exact hc
  refine ⟨?_, ?_, ?_⟩
  · intro o msg
    rw [h]
    by_cases hm : heard msg
    · rw [if_pos hm, if_pos hm, received_map, hcount]
    · rw [if_neg hm, if_neg hm]
      rfl
  · intro removed msg
    rw [h, h, eraseObserver_some]
    split
    · rw [List.filter_map, List.filter_map]
      exact congrArg _ (filter_erase_ne removed _)
    · rfl
  · intro o
    have hr := received_run o (Subject.hub {}) (es.map (SubjectEvent.hubEvent heard))
    rw [← hrun, due_hubEvent] at hr
    exact hr

end Hub

/-- After any subscriptions and notifications, on a camera and on a `FaceDetector<int64_t>`: an
observer is called at each notification as often as its multiplicity, taking one observer out leaves
the calls on the others in their order, and an observer has been told of every frame that was not
empty, or of every notification, in order and as often as its multiplicity was then. -/
theorem observer_laws (isEmpty : Frame → Bool) (es : List (SubjectEvent Frame))
    (es' : List (SubjectEvent (Callback Frame Int))) :
    ObserverLaws Camera.removeObserver (capturePass isEmpty) (fun frame => !isEmpty frame) es
        (es.foldl (cameraStep isEmpty) {}) ∧
      ObserverLaws FaceDetectorInt64.removeObserver notifyAll (fun _ => true) es'
        (es'.foldl detectorStep {}) := by
  constructor
  · apply observerLaws_of_deliversInOrder
    intro observers frame
    cases h : isEmpty frame with
    | true => simp only [capturePass, h, Bool.not_true, if_true, Bool.false_eq_true, if_false]
    | false => simp only [capturePass, h, Bool.not_false, if_true, Bool.false_eq_true, if_false]
  · apply observerLaws_of_deliversInOrder
    intro observers call
    rfl

end ArmFaceID.Utils
