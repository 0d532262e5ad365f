import ArmFaceID.Server.Detector
import ArmFaceID.Server.RpcManager

/-!
# The register button

The button of the register page (`server/gui/register_page.cpp`, `server/gui/ela_gui.cpp`), the
register thread and the `Register` handlers, one step each. A click disables the button and asks for
a frame; a `face_registered` signal enables it again, no matter whose registration it reports, and
`RegisterFeature` emits none when it finds no face.

At most one registration of the page is under way. So the button is disabled exactly while one is
outstanding as long as every frame taken shows a face and no signal of an RPC registration is
delivered in between (`button_truthful_iff`).
-/

set_option autoImplicit false

namespace ArmFaceID.Server

open ArmFaceID.Library

variable {Mat QImage : Type} (V : Vision Mat QImage)

/-- Whose registration is reported. -/
inductive Origin where
  | page
  | rpc
  deriving DecidableEq

/-- A queued `face_registered(id)`. The slot enables the button whatever the id is. -/
structure FaceRegistered where
  origin : Origin
  id : Int
  deriving DecidableEq

/-- The one observer `main` adds to the detector. -/
def elaGui : Observer := 0

/-- `ElaGUI::OnFaceRegistered`: the signals emitted while the calls are made. -/
def emitted (origin : Origin) (calls : List (Notification Mat Int)) : List FaceRegistered :=
  calls.filterMap fun n =>
    match n with
    | (observer, .onFaceRegistered _ _ id) => if observer = elaGui then some ⟨origin, id⟩ else none
    | _ => none

/-- The page, the detector, the frame the register thread is processing, the two stores that
registrations write, and the signals on their way to the page. -/
structure RegisterPage where
  buttonEnabled : Bool := true
  detector : Detector Mat := {}
  attempt : Option Mat := none
  features : FeatureStore := {}
  gallery : V.Gallery := []
  signals : List FaceRegistered := []

inductive PageEvent (Mat : Type) where
  | click (nickName email : String)
  | onFrameCaptured (frame : Mat)
  | takeFrame
  | registerFeature
  | rpcRegister (request : RegisterRequest) (answer : Option Nat)
  | deliver

/-- One step of the page, the camera, the register thread or a handler. -/
def pageStep (s : RegisterPage V) : PageEvent Mat → Option (RegisterPage V)
  | .click nickName email =>
      if s.buttonEnabled then
        -- with a field empty the handler shows a message and returns
        if nickName = "" ∨ email = "" then some s
        else
          some { s with
            detector := s.detector.needRegisterFace { id := -1, nickName := nickName, email := email }
            buttonEnabled := false }
      else none
  | .onFrameCaptured frame => some { s with detector := s.detector.onFrameCaptured frame }
  | .takeFrame =>
      match s.attempt with
      | some _ => none
      | none =>
          match s.detector.popRegister with
          | none => some s
          | some (frame, detector) => some { s with detector := detector, attempt := some frame }
  | .registerFeature =>
      match s.attempt with
      | none => none
      | some frame =>
          let result := registerFeature V [elaGui] s.features frame
          some { s with
            attempt := none
            features := result.store
            signals := s.signals ++ emitted .page result.calls }
  | .rpcRegister request answer =>
      let (served, gallery) := rpcRegister V [elaGui] s.gallery answer request
      some { s with gallery := gallery, signals := s.signals ++ emitted .rpc served.calls }
  | .deliver =>
      match s.signals with
      | [] => none
      | _ :: rest => some { s with signals := rest, buttonEnabled := true }

variable {V}

/-- A registration started from the page is under way: requested, queued, being processed, or its
signal not yet delivered. -/
def Outstanding (s : RegisterPage V) : Prop :=
  s.detector.needRegister = true ∨ s.detector.registerQueue ≠ [] ∨ s.attempt ≠ none ∨
    ∃ signal ∈ s.signals, signal.origin = .page

/-- The button is disabled exactly while a registration of the page is outstanding. -/
def Truthful (s : RegisterPage V) : Prop := s.buttonEnabled = false ↔ Outstanding s

/-- A frame being processed shows a face; a signal of an RPC registration is delivered only when no
registration of the page is outstanding. -/
def KeepsButton (s : RegisterPage V) : PageEvent Mat → Prop
  | .registerFeature => ∀ frame, s.attempt = some frame → V.detectFaces frame ≠ []
  | .deliver => ∀ signal, s.signals.head? = some signal → signal.origin = .rpc → ¬ Outstanding s
  | _ => True

/-! ## Counting what is under way -/

/-- The signals of the page's own registrations. -/
def pageSignals (signals : List FaceRegistered) : Nat :=
  signals.countP fun signal => signal.origin = .page

/-- How many registrations of the page are under way, stage by stage. -/
def underway (s : RegisterPage V) : Nat :=
  s.detector.needRegister.toNat + s.detector.registerQueue.length + s.attempt.toList.length +
    pageSignals s.signals

@[simp] theorem pageSignals_nil : pageSignals [] = 0 := rfl

@[simp] theorem pageSignals_append (signals more : List FaceRegistered) :
    pageSignals (signals ++ more) = pageSignals signals + pageSignals more :=
  List.countP_append

theorem pageSignals_cons (signal : FaceRegistered) (signals : List FaceRegistered) :
    pageSignals (signal :: signals) =
      pageSignals signals + if signal.origin = .page then 1 else 0 := by
  rw [pageSignals, List.countP_cons, ← pageSignals]
  simp

theorem pageSignals_pos {signals : List FaceRegistered} :
    0 < pageSignals signals ↔ ∃ signal ∈ signals, signal.origin = .page := by
  rw [pageSignals, List.countP_pos_iff]
  simp

/-- Handlers emit no signal of the page. -/
theorem pageSignals_rpc (calls : List (Notification Mat Int)) :
    pageSignals (emitted .rpc calls) = 0 := by
  by_contra hne
  obtain ⟨signal, hsignal, horigin⟩ := pageSignals_pos.1 (Nat.pos_of_ne_zero hne)
  obtain ⟨n, -, hn⟩ := List.mem_filterMap.1 hsignal
  split at hn
  · split at hn
    · cases hn
      cases horigin
    · cases hn
  · cases hn

/-- `RegisterFeature` emits one signal for a face and none without. -/
theorem pageSignals_registerFeature (features : FeatureStore) (frame : Mat) :
    pageSignals (emitted .page (registerFeature V [elaGui] features frame).calls) =
      if V.detectFaces frame = [] then 0 else 1 := by
  unfold registerFeature
  cases hdet : V.detectFaces frame with
  | nil => rfl
  | cons face rest => rfl

theorem outstanding_iff (s : RegisterPage V) : Outstanding s ↔ 0 < underway s := by
  have hflag : s.detector.needRegister = true ↔ 0 < s.detector.needRegister.toNat := by
    cases s.detector.needRegister with
    | true => simp
    | false => simp
  have hattempt : s.attempt ≠ none ↔ 0 < s.attempt.toList.length := by
    cases s.attempt with
    | none => simp
    | some frame => simp
  rw [Outstanding, underway, hflag, hattempt, ← List.length_pos_iff, ← pageSignals_pos]
  omega

/-- Either the button is enabled and nothing is under way, or it is disabled and one registration
is. -/
def ButtonInvariant (s : RegisterPage V) : Prop := underway s + s.buttonEnabled.toNat = 1

theorem truthful_of_invariant {s : RegisterPage V} (hinv : ButtonInvariant s) : Truthful s := by
  rw [ButtonInvariant] at hinv
  rw [Truthful, outstanding_iff]
  cases henabled : s.buttonEnabled with
  | true =>
      rw [henabled, Bool.toNat_true] at hinv
      exact iff_of_false Bool.noConfusion (by omega)
  | false =>
      rw [henabled, Bool.toNat_false] at hinv
      exact iff_of_true rfl (by omega)

theorem buttonInvariant_init : ButtonInvariant ({} : RegisterPage V) := rfl

/-! ## What each step does to the count -/

section Step

variable {s t : RegisterPage V} {e : PageEvent Mat}

/-- A request counts once nothing is under way. -/
theorem underway_needRegisterFace (h : underway s = 0) (user : User) (enabled : Bool) :
    underway { s with detector := s.detector.needRegisterFace user, buttonEnabled := enabled } = 1 := by
  simp only [underway] at h ⊢
  simp only [Detector.needRegisterFace_needRegister, Detector.needRegisterFace_registerQueue,
    Bool.toNat_true]
  omega

/-- A capture moves a request from the flag to the queue. -/
theorem underway_onFrameCaptured (frame : Mat) :
    underway { s with detector := s.detector.onFrameCaptured frame } = underway s := by
  simp only [underway, Detector.onFrameCaptured_needRegister,
    Detector.onFrameCaptured_registerQueue]
  cases s.detector.needRegister with
  | true =>
      simp only [Bool.toNat_false, Bool.toNat_true, if_true, List.length_append,
        List.length_singleton]
      omega
  | false => simp

/-- The register thread moves a frame from the queue to its attempt. -/
theorem underway_takeFrame {frame : Mat} {detector : Detector Mat} (hidle : s.attempt = none)
    (hpop : s.detector.popRegister = some (frame, detector)) :
    underway { s with detector := detector, attempt := some frame } = underway s := by
  obtain ⟨hqueue, hneed, -, -⟩ := Detector.popRegister_eq_some hpop
  simp only [underway, hidle, hqueue, hneed, Option.toList_none, Option.toList_some,
    List.length_nil, List.length_cons]
  omega

/-- The attempt ends, and counts on as a signal if the frame shows a face. -/
theorem underway_registerFeature {frame : Mat} (hattempt : s.attempt = some frame)
    (features : FeatureStore) :
    underway { s with
        attempt := none
        features := features
        signals := s.signals ++
          emitted .page (registerFeature V [elaGui] s.features frame).calls } + 1 =
      underway s + if V.detectFaces frame = [] then 0 else 1 := by
  simp only [underway, hattempt, pageSignals_append, pageSignals_registerFeature,
    Option.toList_none, Option.toList_some, List.length_nil, List.length_singleton]
  omega

theorem underway_rpcRegister (gallery : V.Gallery) (calls : List (Notification Mat Int)) :
    underway { s with gallery := gallery, signals := s.signals ++ emitted .rpc calls } =
      underway s := by
  simp only [underway, pageSignals_append, pageSignals_rpc, Nat.add_zero]

/-- A signal of the page that is delivered no longer counts. -/
theorem underway_deliver {signal : FaceRegistered} {rest : List FaceRegistered}
    (hsignals : s.signals = signal :: rest) (enabled : Bool) :
    underway { s with signals := rest, buttonEnabled := enabled } +
        (if signal.origin = .page then 1 else 0) =
      underway s := by
  simp only [underway, hsignals, pageSignals_cons]
  omega

/-- Steps under the guard keep the invariant. -/
theorem buttonInvariant_step (hinv : ButtonInvariant s) (hguard : KeepsButton s e)
    (ht : pageStep V s e = some t) : ButtonInvariant t := by
  rw [ButtonInvariant] at hinv ⊢
  cases e with
  | click nickName email =>
      simp only [pageStep] at ht
      split at ht
      · next henabled =>
          split at ht
          · cases ht
            exact hinv
          · -- the button was enabled, so nothing was under way
            rw [henabled, Bool.toNat_true] at hinv
            have hzero : underway s = 0 := by omega
            cases ht
            rw [underway_needRegisterFace hzero]
            rfl
      · cases ht
  | onFrameCaptured frame =>
      cases ht
      rw [underway_onFrameCaptured]
      exact hinv
  | takeFrame =>
      simp only [pageStep] at ht
      split at ht
      · cases ht
      · next hidle =>
          split at ht
          · cases ht
            exact hinv
          · next frame detector hpop =>
              cases ht
              rw [underway_takeFrame hidle hpop]
              exact hinv
  | registerFeature =>
      simp only [pageStep] at ht
      split at ht
      · cases ht
      · next frame hattempt =>
          -- the attempt counts on as its signal
          have hcount := underway_registerFeature hattempt
            (registerFeature V [elaGui] s.features frame).store
          rw [if_neg (hguard frame hattempt)] at hcount
          cases ht
          rw [Nat.succ.inj hcount]
          exact hinv
  | rpcRegister request answer =>
      cases ht
      rw [underway_rpcRegister]
      exact hinv
  | deliver =>
      simp only [pageStep] at ht
      split at ht
      · cases ht
      · next signal rest hsignals =>
          have hcount := underway_deliver hsignals true
          have hhead : s.signals.head? = some signal := by rw [hsignals, List.head?_cons]
          cases ht
          rw [Bool.toNat_true]
          cases horigin : signal.origin with
          | page =>
              -- one registration was under way, so the button was disabled, and it is over
              rw [if_pos horigin] at hcount
              omega
          | rpc =>
              -- nothing was under way, and the button was enabled
              have hnone := hguard signal hhead horigin
              rw [outstanding_iff] at hnone
              omega

/-- Outside the guard the page is locked for ever, or unlocked early. -/
theorem not_truthful_of_not_guard (hinv : ButtonInvariant s) (hguard : ¬ KeepsButton s e)
    (ht : pageStep V s e = some t) : ¬ Truthful t := by
  rw [ButtonInvariant] at hinv
  cases e with
  | registerFeature =>
      simp only [KeepsButton, not_forall, not_not] at hguard
      obtain ⟨frame, hattempt, hnoface⟩ := hguard
      have hcount := underway_registerFeature hattempt
        (registerFeature V [elaGui] s.features frame).store
      rw [if_pos hnoface] at hcount
      simp only [pageStep, hattempt, Option.some.injEq] at ht
      subst ht
      -- the only registration under way was this attempt, and the button stays disabled
      have hdisabled : s.buttonEnabled = false := by
        cases henabled : s.buttonEnabled with
        | true =>
            rw [henabled, Bool.toNat_true] at hinv
            omega
        | false => rfl
      intro htruth
      have hpos := (outstanding_iff _).1 (htruth.1 hdisabled)
      omega
  | deliver =>
      simp only [KeepsButton, not_forall, not_not] at hguard
      obtain ⟨signal, hhead, horigin, hout⟩ := hguard
      obtain ⟨rest, hsignals⟩ := List.head?_eq_some_iff.1 hhead
      have hcount := underway_deliver hsignals true
      rw [if_neg (by rw [horigin]; decide), Nat.add_zero] at hcount
      simp only [pageStep, hsignals, Option.some.injEq] at ht
      subst ht
      -- the button is enabled now, and the registration is still under way
      intro htruth
      have hdisabled : true = false := by
        apply htruth.2
        rw [outstanding_iff, hcount, ← outstanding_iff]
        exact hout
      cases hdisabled
  | _ => exact absurd trivial hguard

end Step

/-- **The register button.** In every state of a run it is disabled exactly while a registration of
the page is outstanding, if and only if the run keeps to the guard. -/
theorem button_truthful_iff {es : List (PageEvent Mat)} {s : RegisterPage V}
    (h : Run (pageStep V) {} es s) :
    Always (pageStep V) Truthful {} es ↔ GuardedRun (pageStep V) KeepsButton {} es s := by
  apply Run.always_iff_guarded (I := ButtonInvariant) buttonInvariant_init _ _ _ h
  · exact fun s hs => truthful_of_invariant hs
  · exact fun s e t hs hg ht => buttonInvariant_step hs hg ht
  · exact fun s e t hs hg ht => not_truthful_of_not_guard hs hg ht

/-- A registration from the click to its signal. -/
def fullTurn : List (PageEvent Nat) :=
  [.click "Ann" "ann@home", .onFrameCaptured 2, .takeFrame, .registerFeature, .deliver]

theorem button_truthful_full_turn :
    ∃ s, Run (pageStep sampleVision) {} fullTurn s ∧
      (Always (pageStep sampleVision) Truthful {} fullTurn ↔
        GuardedRun (pageStep sampleVision) KeepsButton {} fullTurn s) := by
  have hrun : Run (pageStep sampleVision) {} fullTurn _ :=
    .snoc (.snoc (.snoc (.snoc (.snoc .nil rfl) rfl) rfl) rfl) rfl
  exact ⟨_, hrun, button_truthful_iff hrun⟩

/-- A frame without a face leaves the page locked with nothing under way; the signal of an RPC
registration unlocks it while the click still waits for its frame. -/
theorem button_not_truthful :
    (∃ s, Run (pageStep sampleVision) {}
        [.click "Ann" "ann@home", .onFrameCaptured 1, .takeFrame, .registerFeature] s ∧
      s.buttonEnabled = false ∧ s.signals = [] ∧ ¬ Truthful s) ∧
    ∃ s, Run (pageStep sampleVision) {}
        [.click "Ann" "ann@home", .rpcRegister { faceImg := [2] } (some 0), .deliver] s ∧
      s.buttonEnabled = true ∧ s.detector.needRegister = true ∧ ¬ Truthful s := by
  refine ⟨⟨_, .snoc (.snoc (.snoc (.snoc .nil rfl) rfl) rfl) rfl, rfl, rfl, ?_⟩,
    ⟨_, .snoc (.snoc (.snoc .nil rfl) rfl) rfl, rfl, rfl, ?_⟩⟩
  · rw [Truthful, outstanding_iff]
    decide
  · rw [Truthful, outstanding_iff]
    decide

end ArmFaceID.Server
