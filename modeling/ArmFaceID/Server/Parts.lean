import ArmFaceID.Library.Simulation
import ArmFaceID.Server.Settling

/-!
# The program and its parts

The detector with its two threads, the register page with the `Register` handlers, and the stores
were each studied as a machine of its own. They are parts of the program: a run of the program is, as
far as a part is concerned, a run of that part (`program_parts`). So what holds in every run of a part
holds of the program.
-/

set_option autoImplicit false

namespace ArmFaceID.Server

open ArmFaceID.Library

variable {Mat QImage : Type} (V : Vision Mat QImage) (detectMultiScale : Mat → List Rect)

/-! ## What an event of the program is to a part -/

/-- For the detector. -/
def detectorEvents (_ : Program V) : ProgramEvent Mat → List (DetectorEvent Mat)
  | .click nickName email =>
      if nickName = "" ∨ email = "" then []
      else [.needRegisterFace { id := -1, nickName := nickName, email := email }]
  | .toggle toggled => [.needRecognizeFace toggled]
  | .onFrameCaptured frame => [.onFrameCaptured frame]
  | .workerIteration => [.workerIteration]
  | .registerIteration => [.registerIteration]
  | .rpcRecognizeFace _ => []
  | .rpcRegister _ _ => []
  | .refresh => []
  | .deleteSelected _ => []
  | .deliver => []

/-- For the register page. An iteration of the register thread takes a frame and registers it. -/
def pageEvents (s : Program V) : ProgramEvent Mat → List (PageEvent Mat)
  | .click nickName email => [.click nickName email]
  | .onFrameCaptured frame => [.onFrameCaptured frame]
  | .registerIteration =>
      match s.detector.registerQueue with
      | [] => []
      | _ :: _ => [.takeFrame, .registerFeature]
  | .rpcRegister request answer => [.rpcRegister request answer]
  | .deliver =>
      match s.signals with
      | .faceRegistered _ :: _ => [.deliver]
      | _ => []
  | .toggle _ => []
  | .workerIteration => []
  | .rpcRecognizeFace _ => []
  | .refresh => []
  | .deleteSelected _ => []

/-- For the stores. -/
def storeEvents (_ : Program V) : ProgramEvent Mat → List (ServerEvent Mat)
  | .rpcRecognizeFace request => [.rpcRecognizeFace request]
  | .rpcRegister request answer => [.rpcRegister request answer]
  | .refresh => [.refresh]
  | .deleteSelected selectedIndexes => [.deleteSelected selectedIndexes]
  | .click _ _ => []
  | .toggle _ => []
  | .onFrameCaptured _ => []
  | .workerIteration => []
  | .registerIteration => []
  | .deliver => []

/-! ## What a state of the program is to a part -/

/-- The two threads, over the users cached. -/
structure IsDetector (users : List User) (s : Program V) (d : DetectorThreads Mat) : Prop where
  users : s.server.db.users = users
  detector : d.detector = s.detector
  features : d.features = s.features

/-- The page sees of the detector what a request passes through, and of the signals those of
registrations. -/
structure IsPage (s : Program V) (p : RegisterPage V) : Prop where
  button : p.buttonEnabled = s.buttonEnabled
  flag : p.detector.needRegister = s.detector.needRegister
  queue : p.detector.registerQueue = s.detector.registerQueue
  idle : p.attempt = none
  features : p.features = s.features
  gallery : p.gallery = s.server.gallery
  signals : p.signals.map FaceRegistered.id = registrationIds s.signals

/-- The stores are the program's. -/
def IsStore (s : Program V) (server : ServerState V) : Prop := server = s.server

section Parts

variable {V detectMultiScale} {s t : Program V} {e : ProgramEvent Mat} {users : List User}

/-- A step of the program that is none of the stores'. -/
theorem programStep_server_of_storeEvents (hevents : storeEvents V s e = [])
    (ht : programStep V detectMultiScale s e = some t) : t.server = s.server := by
  cases e with
  | click nickName email =>
      simp only [programStep] at ht
      split at ht
      · split at ht
        · cases ht
          rfl
        · cases ht
          rfl
      · cases ht
  | toggle toggled =>
      cases ht
      rfl
  | onFrameCaptured frame =>
      cases ht
      rfl
  | workerIteration => exact programStep_internal_server rfl ht
  | registerIteration => exact programStep_internal_server rfl ht
  | deliver => exact programStep_internal_server rfl ht
  | rpcRecognizeFace request => cases hevents
  | rpcRegister request answer => cases hevents
  | refresh => cases hevents
  | deleteSelected selectedIndexes => cases hevents

/-- An operation served changes the stores, and signals what its calls signal. -/
theorem serve_eq_some {op : ServerEvent Mat} (ht : s.serve V op = some t) :
    serverStep V [elaGui] s.server op = some t.server ∧ t.detector = s.detector ∧
      t.features = s.features ∧ t.buttonEnabled = s.buttonEnabled ∧
      t.signals = s.signals ++ guiSignals (serverCalls V [elaGui] s.server op) := by
  obtain ⟨server, hserver, rfl⟩ := Option.map_eq_some_iff.1 ht
  exact ⟨hserver, rfl, rfl, rfl, rfl⟩

/-- The program's stores take its operations. -/
theorem simulation_store :
    Simulation (programStep V detectMultiScale) (serverStep V [elaGui]) (storeEvents V)
      (IsStore V) := by
  rintro s e t server rfl ht
  have hsilent : storeEvents V s e = [] →
      ∃ b, Run (serverStep V [elaGui]) s.server (storeEvents V s e) b ∧ IsStore V t b := by
    intro hevents
    rw [hevents]
    exact ⟨_, .nil, (programStep_server_of_storeEvents hevents ht).symm⟩
  cases e with
  | rpcRecognizeFace request => exact ⟨_, .single (serve_eq_some ht).1, rfl⟩
  | rpcRegister request answer => exact ⟨_, .single (serve_eq_some ht).1, rfl⟩
  | refresh => exact ⟨_, .single (serve_eq_some ht).1, rfl⟩
  | deleteSelected selectedIndexes => exact ⟨_, .single (serve_eq_some ht).1, rfl⟩
  | click nickName email => exact hsilent rfl
  | toggle toggled => exact hsilent rfl
  | onFrameCaptured frame => exact hsilent rfl
  | workerIteration => exact hsilent rfl
  | registerIteration => exact hsilent rfl
  | deliver => exact hsilent rfl

/-- The cache is never written. -/
theorem programStep_users (ht : programStep V detectMultiScale s e = some t) :
    t.server.db.users = s.server.db.users := by
  have hsilent : storeEvents V s e = [] → t.server.db.users = s.server.db.users := by
    intro hevents
    rw [programStep_server_of_storeEvents hevents ht]
  cases e with
  | rpcRecognizeFace request =>
      have hserver : some s.server = some t.server := (serve_eq_some ht).1
      rw [Option.some.inj hserver]
  | rpcRegister request answer =>
      obtain ⟨-, hserver⟩ := serverStep_rpcRegister (serve_eq_some ht).1
      rw [hserver]
  | refresh =>
      have hserver : some _ = some t.server := (serve_eq_some ht).1
      rw [← Option.some.inj hserver]
  | deleteSelected selectedIndexes =>
      have hserver : some _ = some t.server := (serve_eq_some ht).1
      rw [← Option.some.inj hserver]
  | click nickName email => exact hsilent rfl
  | toggle toggled => exact hsilent rfl
  | onFrameCaptured frame => exact hsilent rfl
  | workerIteration => exact hsilent rfl
  | registerIteration => exact hsilent rfl
  | deliver => exact hsilent rfl

/-- An iteration of the worker. -/
theorem isDetector_workerIteration {d : DetectorThreads Mat} (h : IsDetector V users s d)
    (ht : programStep V detectMultiScale s .workerIteration = some t) :
    ∃ b, Run (detectorStep V detectMultiScale [elaGui] users) d
      (detectorEvents V s ProgramEvent.workerIteration) b ∧ IsDetector V users t b := by
  obtain ⟨husers, hdetector, hfeatures⟩ := h
  simp only [programStep] at ht
  split at ht
  · next hpop =>
      cases ht
      have hd : detectorStep V detectMultiScale [elaGui] users d .workerIteration = some d := by
        simp only [detectorStep, hdetector, hpop]
      exact ⟨d, .single hd, husers, hdetector, hfeatures⟩
  · next curFrame detector hpop =>
      split at ht
      · next calls hbody =>
          rw [husers] at hbody
          cases ht
          have hd : ∃ b, detectorStep V detectMultiScale [elaGui] users d .workerIteration =
              some b ∧ b.detector = detector ∧ b.features = d.features := by
            simp only [detectorStep, hdetector, hpop, hbody]
            exact ⟨_, rfl, rfl, rfl⟩
          obtain ⟨b, hb, hbdetector, hbfeatures⟩ := hd
          exact ⟨b, .single hb, husers, hbdetector, hbfeatures.trans hfeatures⟩
      · cases ht

/-- An iteration of the register thread. -/
theorem isDetector_registerIteration {d : DetectorThreads Mat} (h : IsDetector V users s d)
    (ht : programStep V detectMultiScale s .registerIteration = some t) :
    ∃ b, Run (detectorStep V detectMultiScale [elaGui] users) d
      (detectorEvents V s ProgramEvent.registerIteration) b ∧ IsDetector V users t b := by
  obtain ⟨husers, hdetector, hfeatures⟩ := h
  simp only [programStep] at ht
  split at ht
  · next hpop =>
      cases ht
      have hd : detectorStep V detectMultiScale [elaGui] users d .registerIteration = some d := by
        simp only [detectorStep, hdetector, hpop]
      exact ⟨d, .single hd, husers, hdetector, hfeatures⟩
  · next curFrame detector hpop =>
      cases ht
      have hd : ∃ b, detectorStep V detectMultiScale [elaGui] users d .registerIteration =
          some b ∧ b.detector = detector ∧
          b.features = (registerFeature V [elaGui] s.features curFrame).store := by
        simp only [detectorStep, hdetector, hpop, hfeatures]
        exact ⟨_, rfl, rfl, rfl⟩
      obtain ⟨b, hb, hbdetector, hbfeatures⟩ := hd
      exact ⟨b, .single hb, husers, hbdetector, hbfeatures⟩

/-- The detector's threads take the program's iterations. -/
theorem simulation_detector :
    Simulation (programStep V detectMultiScale) (detectorStep V detectMultiScale [elaGui] users)
      (detectorEvents V) (IsDetector V users) := by
  rintro s e t d ⟨husers, hdetector, hfeatures⟩ ht
  have husers' : t.server.db.users = users := (programStep_users ht).trans husers
  cases e with
  | click nickName email =>
      simp only [programStep] at ht
      split at ht
      · split at ht
        · next hempty =>
            cases ht
            rw [detectorEvents, if_pos hempty]
            exact ⟨d, .nil, husers, hdetector, hfeatures⟩
        · next hfilled =>
            cases ht
            rw [detectorEvents, if_neg hfilled]
            refine ⟨_, .single rfl, husers, ?_, hfeatures⟩
            rw [hdetector]
      · cases ht
  | toggle toggled =>
      cases ht
      refine ⟨_, .single rfl, husers, ?_, hfeatures⟩
      rw [hdetector]
  | onFrameCaptured frame =>
      cases ht
      refine ⟨_, .single rfl, husers, ?_, hfeatures⟩
      rw [hdetector]
  | workerIteration => exact isDetector_workerIteration ⟨husers, hdetector, hfeatures⟩ ht
  | registerIteration => exact isDetector_registerIteration ⟨husers, hdetector, hfeatures⟩ ht
  | deliver =>
      obtain ⟨signal, -, hsame, -, hstored, -⟩ := programStep_deliver ht
      exact ⟨d, .nil, husers', hdetector.trans hsame.symm, hfeatures.trans hstored.symm⟩
  | rpcRecognizeFace request =>
      obtain ⟨-, hsame, hstored, -, -⟩ := serve_eq_some ht
      exact ⟨d, .nil, husers', hdetector.trans hsame.symm, hfeatures.trans hstored.symm⟩
  | rpcRegister request answer =>
      obtain ⟨-, hsame, hstored, -, -⟩ := serve_eq_some ht
      exact ⟨d, .nil, husers', hdetector.trans hsame.symm, hfeatures.trans hstored.symm⟩
  | refresh =>
      obtain ⟨-, hsame, hstored, -, -⟩ := serve_eq_some ht
      exact ⟨d, .nil, husers', hdetector.trans hsame.symm, hfeatures.trans hstored.symm⟩
  | deleteSelected selectedIndexes =>
      obtain ⟨-, hsame, hstored, -, -⟩ := serve_eq_some ht
      exact ⟨d, .nil, husers', hdetector.trans hsame.symm, hfeatures.trans hstored.symm⟩

/-- The registrations reported are those the page takes notice of. -/
theorem emitted_ids (origin : Origin) (calls : List (Notification Mat Int)) :
    (emitted origin calls).map FaceRegistered.id = registrationIds (guiSignals calls) := by
  induction calls with
  | nil => rfl
  | cons n calls ih =>
      obtain ⟨observer, call⟩ := n
      by_cases hobserver : observer = elaGui
      · subst hobserver
        cases call with
        | onFaceDetected img faces => exact ih
        | onFaceRecognized img face id => exact ih
        | onFaceRegistered img face id => exact congrArg (List.cons id) ih
      · have hemitted : emitted origin ((observer, call) :: calls) = emitted origin calls := by
          rw [emitted, List.filterMap_cons_none, ← emitted]
          cases call with
          | onFaceDetected img faces => rfl
          | onFaceRecognized img face id => rfl
          | onFaceRegistered img face id => exact if_neg hobserver
        have hsignals : guiSignals ((observer, call) :: calls) = guiSignals calls := by
          rw [guiSignals, List.filterMap_cons_none, ← guiSignals]
          exact if_neg hobserver
        rw [hemitted, hsignals]
        exact ih

/-- Calls that report no registration signal none. -/
theorem registrationIds_of_reportedAs {calls : List (Notification Mat Int)}
    (h : ReportedAs (fun _ => False) calls) : registrationIds (guiSignals calls) = [] := by
  rw [registrationIds, List.filterMap_eq_nil_iff]
  intro signal hsignal
  cases signal with
  | faceRecognized id => rfl
  | faceRegistered id =>
      obtain ⟨n, hn, hid⟩ := reported_of_signal hsignal
      exact (h n hn id hid).elim

/-- A step that the page takes no notice of. -/
theorem IsPage.of_eq {p : RegisterPage V} (h : IsPage V s p)
    (hbutton : t.buttonEnabled = s.buttonEnabled)
    (hflag : t.detector.needRegister = s.detector.needRegister)
    (hqueue : t.detector.registerQueue = s.detector.registerQueue)
    (hfeatures : t.features = s.features) (hgallery : t.server.gallery = s.server.gallery)
    (hsignals : registrationIds t.signals = registrationIds s.signals) : IsPage V t p where
  button := h.button.trans hbutton.symm
  flag := h.flag.trans hflag.symm
  queue := h.queue.trans hqueue.symm
  idle := h.idle
  features := h.features.trans hfeatures.symm
  gallery := h.gallery.trans hgallery.symm
  signals := h.signals.trans hsignals.symm

/-- An operation served that registers nobody. -/
theorem IsPage.serve {p : RegisterPage V} (h : IsPage V s p) {op : ServerEvent Mat}
    (ht : s.serve V op = some t) (hgallery : t.server.gallery = s.server.gallery)
    (hreported : ReportedAs (fun _ => False) (serverCalls V [elaGui] s.server op)) :
    IsPage V t p := by
  obtain ⟨-, hdetector, hfeatures, hbutton, hsignals⟩ := serve_eq_some ht
  refine h.of_eq hbutton (by rw [hdetector]) (by rw [hdetector]) hfeatures hgallery ?_
  rw [hsignals, registrationIds_append, registrationIds_of_reportedAs hreported, List.append_nil]

/-- An iteration of the register thread is two steps of the page's machine. -/
theorem isPage_registerIteration {p : RegisterPage V} (h : IsPage V s p)
    (ht : programStep V detectMultiScale s .registerIteration = some t) :
    ∃ q, Run (pageStep V) p (pageEvents V s ProgramEvent.registerIteration) q ∧ IsPage V t q := by
  rcases programStep_register ht with ⟨hqueue, rfl⟩ | ⟨frame, detector, hpop, rfl⟩
  · refine ⟨p, ?_, h⟩
    simp only [pageEvents, hqueue]
    exact .nil
  · obtain ⟨hqueue, hflag, -, -⟩ := Detector.popRegister_eq_some hpop
    have hp : p.detector.popRegister =
        some (frame, { p.detector with registerQueue := detector.registerQueue }) := by
      simp only [Detector.popRegister, h.queue, hqueue]
    have htake : pageStep V p .takeFrame = some { p with
        detector := { p.detector with registerQueue := detector.registerQueue }
        attempt := some frame } := by
      simp only [pageStep, h.idle, hp]
    simp only [pageEvents, hqueue]
    refine ⟨_, .snoc (.single htake) rfl, h.button, h.flag.trans hflag.symm, rfl, rfl, ?_, h.gallery,
      ?_⟩
    · show (registerFeature V [elaGui] p.features frame).store = _
      rw [h.features]
      rfl
    · show (p.signals ++ emitted .page (registerFeature V [elaGui] p.features frame).calls).map
        FaceRegistered.id = registrationIds (s.signals ++ _)
      rw [List.map_append, emitted_ids, h.signals, registrationIds_append,
        (registerFeature_eq V [elaGui] p.features frame).1]

/-- A delivery of a registration is one of the page. -/
theorem isPage_deliver {p : RegisterPage V} (h : IsPage V s p)
    (ht : programStep V detectMultiScale s .deliver = some t) :
    ∃ q, Run (pageStep V) p (pageEvents V s ProgramEvent.deliver) q ∧ IsPage V t q := by
  obtain ⟨signal, hsignals, hdetector, hserver, hfeatures, hbutton⟩ := programStep_deliver ht
  have hids := h.signals
  rw [hsignals] at hids
  cases signal with
  | faceRecognized id =>
      refine ⟨p, ?_, h.of_eq (hbutton.trans (Bool.or_false _)) (by rw [hdetector])
        (by rw [hdetector]) hfeatures (by rw [hserver]) ?_⟩
      · simp only [pageEvents, hsignals]
        exact .nil
      · rw [hsignals]
        rfl
  | faceRegistered id =>
      obtain ⟨first, rest, hp, -, hrest⟩ := List.map_eq_cons_iff.1 hids
      have hstep : pageStep V p .deliver =
          some { p with signals := rest, buttonEnabled := true } := by
        simp only [pageStep, hp]
      simp only [pageEvents, hsignals]
      refine ⟨_, .single hstep, ?_, ?_, ?_, h.idle, h.features.trans hfeatures.symm, ?_, hrest⟩
      · rw [hbutton]
        exact (Bool.or_true _).symm
      · rw [hdetector]
        exact h.flag
      · rw [hdetector]
        exact h.queue
      · rw [hserver]
        exact h.gallery

/-- The page takes the program's clicks, frames, registrations and signals. -/
theorem simulation_page :
    Simulation (programStep V detectMultiScale) (pageStep V) (pageEvents V) (IsPage V) := by
  intro s e t p h ht
  cases e with
  | click nickName email =>
      simp only [programStep] at ht
      split at ht
      · next henabled =>
          rw [← h.button] at henabled
          split at ht
          · next hempty =>
              cases ht
              have hstep : pageStep V p (.click nickName email) = some p := by
                simp only [pageStep, if_pos henabled, if_pos hempty]
              exact ⟨p, .single hstep, h⟩
          · next hfilled =>
              cases ht
              have hstep : pageStep V p (.click nickName email) = some { p with
                  detector := p.detector.needRegisterFace
                    { id := -1, nickName := nickName, email := email }
                  buttonEnabled := false } := by
                simp only [pageStep, if_pos henabled, if_neg hfilled]
              exact ⟨_, .single hstep, rfl, rfl, h.queue, h.idle, h.features, h.gallery, h.signals⟩
      · cases ht
  | toggle toggled =>
      cases ht
      exact ⟨p, .nil, h.of_eq rfl rfl rfl rfl rfl rfl⟩
  | onFrameCaptured frame =>
      cases ht
      refine ⟨_, .single rfl, h.button, ?_, ?_, h.idle, h.features, h.gallery, h.signals⟩
      · simp only [Detector.onFrameCaptured_needRegister]
      · simp only [Detector.onFrameCaptured_registerQueue, h.queue, h.flag]
  | workerIteration =>
      rcases programStep_worker ht with ⟨-, rfl⟩ | ⟨frame, detector, hpop, rfl⟩
      · exact ⟨p, .nil, h⟩
      · obtain ⟨-, hqueue, -⟩ := Detector.popFrame_eq_some hpop
        refine ⟨p, .nil, h.of_eq rfl (popFrame_needRegister hpop) hqueue rfl rfl ?_⟩
        show registrationIds (s.signals ++ _) = registrationIds s.signals
        rw [registrationIds_append, (ids_frameCalls _).2, List.append_nil]
  | registerIteration => exact isPage_registerIteration h ht
  | rpcRecognizeFace request =>
      have hserver : some s.server = some t.server := (serve_eq_some ht).1
      refine ⟨p, .nil, h.serve ht ?_ (reportedAs_rpcRecognizeFace request)⟩
      rw [Option.some.inj hserver]
  | rpcRegister request answer =>
      obtain ⟨hstep, hdetector, hfeatures, hbutton, hsignals⟩ := serve_eq_some ht
      obtain ⟨-, hserver⟩ := serverStep_rpcRegister hstep
      refine ⟨_, .single rfl, h.button.trans hbutton.symm, ?_, ?_, h.idle,
        h.features.trans hfeatures.symm, ?_, ?_⟩
      · rw [hdetector]
        exact h.flag
      · rw [hdetector]
        exact h.queue
      · rw [hserver, ← h.gallery]
        rfl
      · rw [hsignals, List.map_append, emitted_ids, h.signals, registrationIds_append, h.gallery]
        rfl
  | refresh =>
      have hserver : some _ = some t.server := (serve_eq_some ht).1
      refine ⟨p, .nil, h.serve ht ?_ reportedAs_nil⟩
      rw [← Option.some.inj hserver]
  | deleteSelected selectedIndexes =>
      have hserver : some _ = some t.server := (serve_eq_some ht).1
      refine ⟨p, .nil, h.serve ht ?_ reportedAs_nil⟩
      rw [← Option.some.inj hserver]
  | deliver => exact isPage_deliver h ht

end Parts

/-- Ann asks for a registration while a client registers and another asks who is there. -/
def wholeProgram : List (ProgramEvent Nat) :=
  [.toggle true, .click "Bob" "bob@home", .onFrameCaptured 2,
    .rpcRegister { faceImg := [3] } (some 0), .workerIteration,
    .rpcRecognizeFace { faceImg := [2] }, .registerIteration, .deliver, .deliver]

end ArmFaceID.Server
