import ArmFaceID.Server.RegisterMessages
import ArmFaceID.Server.WorkerTrace

/-!
# The server program

What `main` puts together (`server/main.cpp`): the camera feeds the detector, whose worker recognises
faces against the cache and whose register thread stores features; clients call the handlers; the
window switches recognition on, asks for registrations, deletes rows, and answers signals with
messages. Nothing of this calls `RegisterFace(frame, user)` or `LoadToCache`. A frame is a value here;
that the camera may write over the pixels of a queued one is the matter of `Server/FrameBuffers.lean`.
Nobody edits a cell of the table view in place, which the view would allow.

So the table never gains a row, the cache stays what it was at start-up, and whoever is recognised
while the program runs is greeted by the name the table gave then. A success that is announced is
such a greeting or an entry of SeetaFace's database stored by a handler (`program_messages`).
-/

set_option autoImplicit false

namespace ArmFaceID.Server

open ArmFaceID.Library

variable {Mat QImage : Type} (V : Vision Mat QImage) (detectMultiScale : Mat → List Rect)

/-- The stores, the detector, the register button, and the signals queued for the window. -/
structure Program where
  server : ServerState V
  detector : Detector Mat := {}
  features : FeatureStore := {}
  buttonEnabled : Bool := true
  signals : List GuiSignal := []

inductive ProgramEvent (Mat : Type) where
  | click (nickName email : String)
  | toggle (toggled : Bool)
  | onFrameCaptured (frame : Mat)
  | workerIteration
  | registerIteration
  | rpcRecognizeFace (request : RecognizeRequest)
  | rpcRegister (request : RegisterRequest) (answer : Option Nat)
  | refresh
  | deleteSelected (selectedIndexes : List (Nat × Nat))
  | deliver

/-- The program once `main` has started everything, on a table. -/
def Program.started (table : TbUser) : Program V where
  server := .started V table

/-- Calls on the observers, of which the window is the one. -/
def Program.notify (s : Program V) (calls : List (Notification Mat Int)) : Program V :=
  { s with signals := s.signals ++ guiSignals calls }

/-- An operation of a handler or of the table page. -/
def Program.serve (s : Program V) (op : ServerEvent Mat) : Option (Program V) :=
  (serverStep V [elaGui] s.server op).map fun server =>
    Program.notify V { s with server := server } (serverCalls V [elaGui] s.server op)

/-- One step. An exception that leaves the worker's function ends the process. -/
def programStep (s : Program V) : ProgramEvent Mat → Option (Program V)
  | .click nickName email =>
      if s.buttonEnabled then
        if nickName = "" ∨ email = "" then some s
        else
          some { s with
            detector := s.detector.needRegisterFace { id := -1, nickName := nickName, email := email }
            buttonEnabled := false }
      else none
  | .toggle toggled => some { s with detector := s.detector.needRecognizeFace toggled }
  | .onFrameCaptured frame => some { s with detector := s.detector.onFrameCaptured frame }
  | .workerIteration =>
      match s.detector.popFrame with
      | none => some s
      | some (curFrame, detector) =>
          match workerBody V detectMultiScale [elaGui] s.server.db.users detector.needRecognize
            curFrame with
          | .ok calls => some (Program.notify V { s with detector := detector } calls)
          | .error _ => none
  | .registerIteration =>
      match s.detector.popRegister with
      | none => some s
      | some (curFrame, detector) =>
          let result := registerFeature V [elaGui] s.features curFrame
          some (Program.notify V { s with detector := detector, features := result.store }
            result.calls)
  | .rpcRecognizeFace request => s.serve V (.rpcRecognizeFace request)
  | .rpcRegister request answer => s.serve V (.rpcRegister request answer)
  | .refresh => s.serve V .refresh
  | .deleteSelected selectedIndexes => s.serve V (.deleteSelected selectedIndexes)
  | .deliver =>
      match s.signals with
      | [] => none
      | .faceRegistered _ :: rest => some { s with signals := rest, buttonEnabled := true }
      | .faceRecognized _ :: rest => some { s with signals := rest }

/-- A message in the window: after a click, or for a signal. -/
inductive ProgramMessage where
  | clicked (message : BarMessage)
  | answered (signal : GuiSignal) (message : BarMessage)
  deriving DecidableEq

/-- The messages of a step. -/
def programMessages (s : Program V) : ProgramEvent Mat → List ProgramMessage
  | .click nickName email => [.clicked (clickMessage nickName email)]
  | .deliver =>
      match s.signals with
      | [] => []
      | signal :: _ => [.answered signal (messageOf s.server.db.users signal)]
  | .toggle _ => []
  | .onFrameCaptured _ => []
  | .workerIteration => []
  | .registerIteration => []
  | .rpcRecognizeFace _ => []
  | .rpcRegister _ _ => []
  | .refresh => []
  | .deleteSelected _ => []

/-- All messages of a run after start-up on a table. -/
def messagesShown (table : TbUser) (es : List (ProgramEvent Mat)) : List ProgramMessage :=
  outputs (programStep V detectMultiScale) (programMessages V) (.started V table) es

/-! ## What is reported -/

/-- The id of a callback that reports a registration. -/
def reportedId : Callback Mat Int → Option Int
  | .onFaceRegistered _ _ id => some id
  | _ => none

/-- The registrations reported have these ids only. -/
def ReportedAs (P : Int → Prop) (calls : List (Notification Mat Int)) : Prop :=
  ∀ n ∈ calls, ∀ id, reportedId n.2 = some id → P id

section Reported

variable {V detectMultiScale} {observers : List Observer} {P : Int → Prop} {users : List User}

theorem reported_of_signal {calls : List (Notification Mat Int)} {id : Int}
    (h : .faceRegistered id ∈ guiSignals calls) : ∃ n ∈ calls, reportedId n.2 = some id := by
  obtain ⟨⟨observer, call⟩, hn, hsignal⟩ := List.mem_filterMap.1 h
  refine ⟨_, hn, ?_⟩
  split at hsignal
  · cases call with
    | onFaceDetected img faces => cases hsignal
    | onFaceRecognized img face id' => cases hsignal
    | onFaceRegistered img face id' =>
        cases hsignal
        rfl
  · cases hsignal

theorem reportedAs_nil : ReportedAs P ([] : List (Notification Mat Int)) :=
  fun _ hn => absurd hn List.not_mem_nil

theorem reportedAs_reportRegistered {frame : Mat} {code : Int} (h : P code) :
    ReportedAs P (reportRegistered observers frame code) := by
  intro n hn id hid
  obtain ⟨o, -, rfl⟩ := List.mem_map.1 hn
  cases hid
  exact h

/-- Recognition reports no registration. -/
theorem reportedAs_recognized {img : Mat} {r : Recognition Mat}
    (h : recognizeFaceFromDb V observers users img = .ok r) : ReportedAs P r.calls := by
  rcases recognizeFaceFromDb_cases h with ⟨-, rfl⟩ | ⟨u, hu, -, rfl⟩
  · exact reportedAs_nil
  · intro n hn id hid
    obtain ⟨o, -, rfl⟩ := List.mem_map.1 hn
    cases hid

/-- The worker announces cached users, and reports no registration. -/
theorem worker_announces {needRecognize : Bool} {curFrame : Mat}
    {calls : List (Notification Mat Int)}
    (h : workerBody V detectMultiScale observers users needRecognize curFrame = .ok calls) :
    AnnouncedFrom users calls ∧ ReportedAs P calls := by
  rw [workerBody] at h
  split at h
  · cases h
    exact ⟨fun n hn => absurd hn List.not_mem_nil, reportedAs_nil⟩
  · next face rest hdet =>
      have hdetected : AnnouncedFrom users
            (notifyAll observers (.onFaceDetected curFrame (face :: rest) : Callback Mat Int)) ∧
          ReportedAs P (notifyAll observers (.onFaceDetected curFrame (face :: rest))) := by
        refine ⟨?_, ?_⟩
        · intro n hn id hid
          obtain ⟨o, -, rfl⟩ := List.mem_map.1 hn
          cases hid
        · intro n hn id hid
          obtain ⟨o, -, rfl⟩ := List.mem_map.1 hn
          cases hid
      cases needRecognize with
      | false =>
          cases h
          exact hdetected
      | true =>
          obtain ⟨found, hfound, hret⟩ := bind_eq_ok h
          cases hret
          refine ⟨hdetected.1.append (announcedFrom_recognized hfound), ?_⟩
          intro n hn
          rcases List.mem_append.1 hn with hn | hn
          · exact hdetected.2 n hn
          · exact reportedAs_recognized hfound n hn

/-- The register thread reports faces that exist already. -/
theorem reportedAs_registerFeature (features : FeatureStore) (img : Mat)
    (h : P kFaceAlreadyExisted) :
    ReportedAs P (registerFeature V observers features img).calls := by
  rw [registerFeature]
  split
  · exact reportedAs_nil
  · exact reportedAs_reportRegistered h

/-- A registration announced as a success has its entry in SeetaFace's database. -/
def StoredIfSuccess (gallery : V.Gallery) (id : Int) : Prop :=
  (faceRegisteredMessage id).kind = .success → ∃ e ∈ gallery, (e.index : Int) = id

variable (observers) in
/-- A handler that reports a success has stored the entry, and removes none. -/
theorem rpcRegister_reports (gallery : V.Gallery) (answer : Option Nat)
    (request : RegisterRequest) :
    ReportedAs (StoredIfSuccess (rpcRegister V observers gallery answer request).2)
        (rpcRegister V observers gallery answer request).1.calls ∧
      ∀ e ∈ gallery, e ∈ (rpcRegister V observers gallery answer request).2 := by
  rw [rpcRegister]
  cases V.bytesToMat request.faceImg V.noMat with
  | error err => exact ⟨reportedAs_nil, fun e he => he⟩
  | ok decodedMat =>
      rcases registerFace_cases V observers gallery answer decodedMat with
        ⟨-, hr⟩ | ⟨-, -, hr⟩ | ⟨e, -, -, -, -, hr⟩
      · simp only [hr]
        exact ⟨reportedAs_reportRegistered fun h => absurd h (by decide), fun e he => he⟩
      · simp only [hr]
        exact ⟨reportedAs_reportRegistered fun h => absurd h (by decide), fun e he => he⟩
      · simp only [hr]
        refine ⟨reportedAs_reportRegistered fun _ => ?_, fun e' he' => List.mem_append_left _ he'⟩
        exact ⟨e, List.mem_append_right _ List.mem_cons_self, rfl⟩

/-- `RecognizeFace` reports no registration. -/
theorem reportedAs_rpcRecognizeFace (request : RecognizeRequest) :
    ReportedAs P (rpcRecognizeFace V observers users request).calls := by
  cases hmat : V.bytesToMat request.faceImg V.noMat with
  | error err =>
      rw [rpcRecognizeFace_of_error hmat]
      exact reportedAs_nil
  | ok decodedMat =>
      rw [rpcRecognizeFace_of_ok hmat]
      cases hfound : recognizeFaceFromDb V observers users decodedMat with
      | ok found => exact reportedAs_recognized hfound
      | error err => exact reportedAs_nil

end Reported

/-! ## The invariant -/

/-- The table loses rows only. -/
theorem foldl_removeRow_sublist (rows : List Nat) (state : TableModel × TbUser) :
    (rows.foldl removeRow state).2.rows.Sublist state.2.rows := by
  induction rows generalizing state with
  | nil => exact List.Sublist.refl _
  | cons row rows ih =>
      rw [List.foldl_cons]
      apply (ih _).trans
      rw [removeRow]
      split
      · exact List.filter_sublist
      · exact List.Sublist.refl _

/-- A signal on its way is about a cached user, or about a registration. -/
def SignalSound (cached : List User) (gallery : V.Gallery) : GuiSignal → Prop
  | .faceRecognized id => ∃ u ∈ cached, u.id = id
  | .faceRegistered id => StoredIfSuccess gallery id

/-- A recognition is answered by the greeting of the person in the row, and a registration as its id
says. -/
def AnswerRight (table : TbUser) (gallery : V.Gallery) (message : BarMessage) : GuiSignal → Prop
  | .faceRecognized id => ∃ row ∈ table.rows, row.userId = id ∧ message = greeting row.nickName
  | .faceRegistered id => message = faceRegisteredMessage id ∧ StoredIfSuccess gallery id

/-- What the table, the cache, the signals and the messages have to do with the table and the cache
at start-up. -/
structure ProgramInvariant (table : TbUser) (cached : List User) (out : List ProgramMessage)
    (s : Program V) : Prop where
  users : s.server.db.users = cached
  rows : s.server.db.tbUser.rows.Sublist table.rows
  signals : ∀ signal ∈ s.signals, SignalSound V cached s.server.gallery signal
  answered : ∀ signal message, ProgramMessage.answered signal message ∈ out →
    AnswerRight V table s.server.gallery message signal

section Invariant

variable {V detectMultiScale} {table : TbUser} {cached : List User}
  {out : List ProgramMessage} {s t : Program V} {e : ProgramEvent Mat} {gallery gallery' : V.Gallery}

theorem StoredIfSuccess.mono {id : Int} (h : StoredIfSuccess gallery id)
    (hmore : ∀ e ∈ gallery, e ∈ gallery') : StoredIfSuccess gallery' id := by
  intro hsuccess
  obtain ⟨e, he, hid⟩ := h hsuccess
  exact ⟨e, hmore e he, hid⟩

theorem SignalSound.mono {signal : GuiSignal} (h : SignalSound V cached gallery signal)
    (hmore : ∀ e ∈ gallery, e ∈ gallery') : SignalSound V cached gallery' signal := by
  cases signal with
  | faceRecognized id => exact h
  | faceRegistered id => exact StoredIfSuccess.mono h hmore

theorem AnswerRight.mono {message : BarMessage} {signal : GuiSignal}
    (h : AnswerRight V table gallery message signal) (hmore : ∀ e ∈ gallery, e ∈ gallery') :
    AnswerRight V table gallery' message signal := by
  cases signal with
  | faceRecognized id => exact h
  | faceRegistered id => exact ⟨h.1, h.2.mono hmore⟩

/-- Before the first step nothing has been emitted or answered. -/
theorem programInvariant_init (husers : s.server.db.users = cached)
    (hrows : s.server.db.tbUser.rows.Sublist table.rows) (hsignals : s.signals = []) :
    ProgramInvariant V table cached [] s where
  users := husers
  rows := hrows
  signals signal h := by
    rw [hsignals] at h
    exact absurd h List.not_mem_nil
  answered _ _ h := absurd h List.not_mem_nil

/-- A step that makes calls on the window: their signals are sound if the calls are about cached
users and stored entries. -/
theorem ProgramInvariant.notify (hinv : ProgramInvariant V table cached out s)
    {calls : List (Notification Mat Int)} (husers : t.server.db.users = s.server.db.users)
    (hrows : t.server.db.tbUser.rows.Sublist s.server.db.tbUser.rows)
    (hgallery : ∀ e ∈ s.server.gallery, e ∈ t.server.gallery)
    (hsignals : t.signals = s.signals ++ guiSignals calls)
    (hannounced : AnnouncedFrom s.server.db.users calls)
    (hreported : ReportedAs (StoredIfSuccess t.server.gallery) calls) :
    ProgramInvariant V table cached out t where
  users := husers.trans hinv.users
  rows := hrows.trans hinv.rows
  signals := by
    intro signal hsignal
    rw [hsignals] at hsignal
    rcases List.mem_append.1 hsignal with hold | hnew
    · exact (hinv.signals signal hold).mono hgallery
    · cases signal with
      | faceRecognized id =>
          -- whoever is announced is cached
          obtain ⟨n, hn, hid⟩ := announced_of_signal hnew
          rw [hinv.users] at hannounced
          exact hannounced n hn id hid
      | faceRegistered id =>
          obtain ⟨n, hn, hid⟩ := reported_of_signal hnew
          exact hreported n hn id hid
  answered signal message h := (hinv.answered signal message h).mono hgallery

/-- A step that makes no call and reaches neither the database nor the signals. -/
theorem ProgramInvariant.of_eq (hinv : ProgramInvariant V table cached out s)
    (hserver : t.server = s.server) (hsignals : t.signals = s.signals) :
    ProgramInvariant V table cached out t where
  users := by rw [hserver]; exact hinv.users
  rows := by rw [hserver]; exact hinv.rows
  signals := by rw [hserver, hsignals]; exact hinv.signals
  answered := by rw [hserver]; exact hinv.answered

/-- What is clicked is no answer. -/
theorem ProgramInvariant.clicked (hinv : ProgramInvariant V table cached out s) (message : BarMessage) :
    ProgramInvariant V table cached (out ++ [.clicked message]) s where
  users := hinv.users
  rows := hinv.rows
  signals := hinv.signals
  answered signal message' h := by
    rcases List.mem_append.1 h with hold | hnew
    · exact hinv.answered signal message' hold
    · cases List.mem_singleton.1 hnew

/-- An operation of a handler or of the page that leaves the cache alone and adds no row. -/
theorem ProgramInvariant.serve (hinv : ProgramInvariant V table cached out s) {op : ServerEvent Mat}
    (ht : s.serve V op = some t)
    (hop : ∀ server, serverStep V [elaGui] s.server op = some server →
      server.db.users = s.server.db.users ∧
        server.db.tbUser.rows.Sublist s.server.db.tbUser.rows ∧
        (∀ e ∈ s.server.gallery, e ∈ server.gallery) ∧
        ReportedAs (StoredIfSuccess server.gallery) (serverCalls V [elaGui] s.server op)) :
    ProgramInvariant V table cached out t := by
  obtain ⟨server, hserver, rfl⟩ := Option.map_eq_some_iff.1 ht
  obtain ⟨husers, hrows, hgallery, hreported⟩ := hop server hserver
  exact hinv.notify husers hrows hgallery rfl (announcedFrom_serverCalls s.server op) hreported

/-- A delivery answers a sound signal, out of the cache as it was at start-up. -/
theorem programInvariant_deliver (hids : ∀ row ∈ table.rows, row.userId < 2 ^ 31)
    (hcached : ∀ u ∈ cached, u ∈ table.rows.map UserRow.cached)
    (hinv : ProgramInvariant V table cached out s)
    (ht : programStep V detectMultiScale s .deliver = some t) :
    ProgramInvariant V table cached (out ++ programMessages V s .deliver) t := by
  have hpop : ∃ signal rest, s.signals = signal :: rest ∧ t.signals = rest ∧
      t.server = s.server := by
    simp only [programStep] at ht
    split at ht
    · cases ht
    · next id rest hsignals =>
        cases ht
        exact ⟨.faceRegistered id, rest, hsignals, rfl, rfl⟩
    · next id rest hsignals =>
        cases ht
        exact ⟨.faceRecognized id, rest, hsignals, rfl, rfl⟩
  obtain ⟨signal, rest, hsignals, hrest, hserver⟩ := hpop
  have hright : AnswerRight V table s.server.gallery (messageOf s.server.db.users signal) signal := by
    have hsound := hinv.signals signal (by rw [hsignals]; exact List.mem_cons_self)
    cases signal with
    | faceRegistered id => exact ⟨rfl, hsound⟩
    | faceRecognized id =>
        obtain ⟨u, hu, rfl⟩ := hsound
        obtain ⟨row, hrow, rfl⟩ := List.mem_map.1 (hcached u hu)
        have hstart : Holds table.rows ({ tbUser := table } : FaceDataBase) :=
          Holds.start table rfl rfl
        have hid := hstart.cached_id hrow (hids row hrow)
        refine ⟨row, hrow, hid.symm, ?_⟩
        -- the cache as it is, over the table at start-up
        have hholds := hstart.of_rows_subset { s.server.db with tbUser := table } rfl
          (fun _ hrow => hrow) (by rw [hinv.users]; exact hcached)
        have hgreeting := faceRecognizedMessage_of_known hholds hids hrow
        have hmem : row.userId ∈ cached.map User.id := List.mem_map.2 ⟨_, hu, hid⟩
        rw [hinv.users, if_pos hmem] at hgreeting
        show faceRecognizedMessage s.server.db.users row.cached.id = _
        rw [hinv.users, hid]
        exact hgreeting
  refine ⟨?_, ?_, ?_, ?_⟩
  · rw [hserver]
    exact hinv.users
  · rw [hserver]
    exact hinv.rows
  · intro signal' hsignal'
    rw [hrest] at hsignal'
    rw [hserver]
    exact hinv.signals signal' (by rw [hsignals]; exact List.mem_cons_of_mem _ hsignal')
  · intro signal' message hmem
    rw [hserver]
    simp only [programMessages, hsignals] at hmem
    rcases List.mem_append.1 hmem with hold | hnew
    · exact hinv.answered signal' message hold
    · cases List.mem_singleton.1 hnew
      exact hright

/-- An iteration of the worker announces cached users. -/
theorem programInvariant_workerIteration (hinv : ProgramInvariant V table cached out s)
    (ht : programStep V detectMultiScale s .workerIteration = some t) :
    ProgramInvariant V table cached out t := by
  simp only [programStep] at ht
  split at ht
  · cases ht
    exact hinv
  · split at ht
    · next calls hbody =>
        cases ht
        obtain ⟨hannounced, hreported⟩ := worker_announces hbody
        exact hinv.notify rfl (List.Sublist.refl _) (fun _ he => he) rfl hannounced hreported
    · cases ht

/-- An iteration of the register thread announces nobody, and reports no success. -/
theorem programInvariant_registerIteration (hinv : ProgramInvariant V table cached out s)
    (ht : programStep V detectMultiScale s .registerIteration = some t) :
    ProgramInvariant V table cached out t := by
  simp only [programStep] at ht
  split at ht
  · cases ht
    exact hinv
  · next curFrame detector hpop =>
      cases ht
      refine hinv.notify rfl (List.Sublist.refl _) (fun _ he => he) rfl ?_ ?_
      · rw [registerFeature]
        split
        · exact fun n hn => absurd hn List.not_mem_nil
        · exact announcedFrom_reportRegistered _ _ _
      · exact reportedAs_registerFeature s.features curFrame fun h => absurd h (by decide)

theorem programInvariant_step (hids : ∀ row ∈ table.rows, row.userId < 2 ^ 31)
    (hcached : ∀ u ∈ cached, u ∈ table.rows.map UserRow.cached)
    (hinv : ProgramInvariant V table cached out s) (ht : programStep V detectMultiScale s e = some t) :
    ProgramInvariant V table cached (out ++ programMessages V s e) t := by
  have hall : ∀ e ∈ s.server.gallery, e ∈ s.server.gallery := fun _ he => he
  cases e with
  | click nickName email =>
      have hsame : t.server = s.server ∧ t.signals = s.signals := by
        simp only [programStep] at ht
        split at ht
        · split at ht
          · cases ht
            exact ⟨rfl, rfl⟩
          · cases ht
            exact ⟨rfl, rfl⟩
        · cases ht
      exact (hinv.of_eq hsame.1 hsame.2).clicked _
  | toggle toggled =>
      cases ht
      rw [programMessages, List.append_nil]
      exact hinv.of_eq rfl rfl
  | onFrameCaptured frame =>
      cases ht
      rw [programMessages, List.append_nil]
      exact hinv.of_eq rfl rfl
  | workerIteration =>
      rw [programMessages, List.append_nil]
      exact programInvariant_workerIteration hinv ht
  | registerIteration =>
      rw [programMessages, List.append_nil]
      exact programInvariant_registerIteration hinv ht
  | rpcRecognizeFace request =>
      rw [programMessages, List.append_nil]
      apply hinv.serve ht
      intro server hserver
      cases hserver
      exact ⟨rfl, List.Sublist.refl _, hall, reportedAs_rpcRecognizeFace request⟩
  | rpcRegister request answer =>
      rw [programMessages, List.append_nil]
      apply hinv.serve ht
      intro server hserver
      obtain ⟨-, rfl⟩ := serverStep_rpcRegister hserver
      obtain ⟨hreported, hmore⟩ := rpcRegister_reports [elaGui] s.server.gallery answer request
      exact ⟨rfl, List.Sublist.refl _, hmore, hreported⟩
  | refresh =>
      rw [programMessages, List.append_nil]
      apply hinv.serve ht
      intro server hserver
      cases hserver
      exact ⟨rfl, List.Sublist.refl _, hall, reportedAs_nil⟩
  | deleteSelected selectedIndexes =>
      rw [programMessages, List.append_nil]
      apply hinv.serve ht
      intro server hserver
      cases hserver
      exact ⟨rfl, foldl_removeRow_sublist _ (s.server.tableModel, s.server.db.tbUser), hall,
        reportedAs_nil⟩
  | deliver => exact programInvariant_deliver hids hcached hinv ht

end Invariant

/-- Ann's row is deleted while recognitions of her wait for the window; a client registers meanwhile. -/
def greetedAfterDeletion : List (ProgramEvent Nat) :=
  [.toggle true, .onFrameCaptured 2, .workerIteration, .refresh, .deleteSelected [(0, 1)],
    .rpcRegister { faceImg := [3] } (some 0), .deliver, .deliver]

end ArmFaceID.Server
