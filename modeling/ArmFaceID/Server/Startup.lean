import ArmFaceID.Server.RpcManager
import ArmFaceID.Server.WorkerTrace
import Mathlib.Logic.Function.Basic

/-!
# Starting the server

`main` in `server/main.cpp` starts the gRPC server before it builds the `FaceDataBase` and loads the
users. A `RecognizeFace` handler that asks for the database in between makes the assertion of
`GetInstance` abort the server, and one that compares in between answers from a cache that is not
loaded. Nothing else in the server can meet a null singleton (`served_after_load_iff`).
-/

set_option autoImplicit false

namespace ArmFaceID.Server

open ArmFaceID.Library

/-! ## Filling the cache -/

/-- The users of the rows, as `LoadToCache` builds them. -/
def TbUser.toUsers (t : TbUser) : List User := t.rows.map UserRow.cached

/-- `users_.clear()`. -/
def FaceDataBase.clearUsers (db : FaceDataBase) : FaceDataBase := { db with users := [] }

/-- `users_.push_back(user)`. -/
def FaceDataBase.pushUser (db : FaceDataBase) (user : User) : FaceDataBase :=
  { db with users := db.users ++ [user] }

theorem FaceDataBase.pushUsers_eq (users : List User) (db : FaceDataBase) :
    (users.foldl FaceDataBase.pushUser db).users = db.users ++ users := by
  induction users generalizing db with
  | nil => exact (List.append_nil _).symm
  | cons user users ih =>
      rw [List.foldl_cons, ih, pushUser]
      simp

/-- Clearing and appending one user after another is what `loadToCache` does at once. -/
theorem FaceDataBase.pushUsers_clearUsers (db : FaceDataBase) :
    (db.tbUser.toUsers.foldl pushUser db.clearUsers).users = (db.loadToCache true).users := by
  rw [pushUsers_eq, loadToCache_users]
  rfl

/-! ## The process -/

/-- What `main` does next, from the construction of the detector on; `exec` is the event loop. -/
inductive MainPhase where
  | buildDetector
  | buildAndStart
  | buildDatabase
  | initDb
  | loadToCache
  | appendUsers (rest : List User)
  | createGui
  | openCamera
  | startDetector
  | exec

namespace MainPhase

/-- `FaceDetectorServer::BuildAndReturn` is done. -/
def detectorBuilt : MainPhase → Bool
  | .buildDetector => false
  | _ => true

/-- `BuildAndStart` is done: handlers may run. -/
def serving : MainPhase → Bool
  | .buildDetector | .buildAndStart => false
  | _ => true

/-- `FaceDataBase::BuildAndReturn` is done. -/
def databaseBuilt : MainPhase → Bool
  | .buildDetector | .buildAndStart | .buildDatabase => false
  | _ => true

/-- The first `LoadToCache` is done. -/
def cacheLoaded : MainPhase → Bool
  | .createGui | .openCamera | .startDetector | .exec => true
  | _ => false

end MainPhase

/-- A `RecognizeFace` handler: idle, about to ask for the database, or about to compare the image
with the users of the database it was given. -/
inductive RecognizePhase (Mat : Type) where
  | idle
  | decoded (decodedMat : Mat)
  | holding (decodedMat : Mat)

/-- A reply that came out of a comparison with the cached users, and whether the first `LoadToCache`
was done by then. -/
structure Reply where
  handled : Handled RecognizeResult
  loaded : Bool
  deriving DecidableEq

variable {Mat QImage : Type} (V : Vision Mat QImage)

/-- The server's process: the two singletons, `main`, the handlers and what the threads share. -/
structure Process where
  main : MainPhase := .buildDetector
  aborted : Bool := false
  /-- `FaceDetectorServer::_instance`. -/
  detector : Option (Detector Mat) := none
  /-- `FaceDataBase::instance_`. -/
  database : Option FaceDataBase := none
  observers : List Observer := []
  gallery : V.Gallery := []
  lastFeatures : List ℚ := []
  cameraOpen : Bool := false
  /-- The first `LoadToCache` has returned. -/
  loaded : Bool := false
  handlers : Nat → RecognizePhase Mat := fun _ => .idle
  replies : List Reply := []

namespace Process

variable {V}

/-- A failed assertion. -/
def abort (s : Process V) : Process V := { s with aborted := true }

/-- `FaceDetectorServer::GetInstance` and what its caller does with the detector. -/
def withDetector (s : Process V) (use : Detector Mat → Option (Process V)) : Option (Process V) :=
  match s.detector with
  | none => some s.abort
  | some detector => use detector

/-- `FaceDataBase::GetInstance` and what its caller does with the database. -/
def withDatabase (s : Process V) (use : FaceDataBase → Option (Process V)) : Option (Process V) :=
  match s.database with
  | none => some s.abort
  | some db => use db

def enter (s : Process V) (handler : Nat) (phase : RecognizePhase Mat) : Process V :=
  { s with handlers := Function.update s.handlers handler phase }

end Process

/-- A step of `main`, of a handler, of the camera, of the two threads or of the GUI. A step of
`main` comes with whether the `SELECT` of `LoadToCache`, or `OpenAndStart`, succeeds. -/
inductive ProcessEvent (Mat : Type) where
  | main (succeeds : Bool)
  | rpcRecognizeFace (handler : Nat) (request : RecognizeRequest)
  | getInstance (handler : Nat)
  | compareUsers (handler : Nat)
  | rpcRegister (request : RegisterRequest) (answer : Option Nat)
  | onFrameCaptured (frame : Mat)
  | workerIteration
  | registerIteration
  | toggleRecognition (toggled : Bool)
  | registerClicked (user : User)
  | faceRecognized (id : Int)

section Steps

variable (detectMultiScale : Mat → List Rect) (table : TbUser) (elaGui : Observer)

/-- The next step of `main`, on a database file that holds `table`. -/
def mainStep (s : Process V) (succeeds : Bool) : Option (Process V) :=
  match s.main with
  | .buildDetector =>
      match s.detector with
      | none => some { s with detector := some {}, main := .buildAndStart }
      | some _ => some s.abort
  | .buildAndStart => some { s with main := .buildDatabase }
  | .buildDatabase =>
      match s.database with
      | none =>
          some { s with
            database := some { tbUser := table }
            main := .initDb }
      | some _ => some s.abort
  -- the table is there; whether it could be created is not looked at
  | .initDb => some { s with main := .loadToCache }
  | .loadToCache =>
      if succeeds then
        some { s with
          database := s.database.map FaceDataBase.clearUsers
          main := .appendUsers table.toUsers }
      else some { s with main := .createGui, loaded := true }
  | .appendUsers [] => some { s with main := .createGui, loaded := true }
  | .appendUsers (user :: rest) =>
      some { s with
        database := s.database.map fun db => db.pushUser user
        main := .appendUsers rest }
  -- the window's constructor asks for the detector
  | .createGui =>
      s.withDetector fun _ =>
        some { s with observers := s.observers ++ [elaGui], main := .openCamera }
  | .openCamera => some { s with cameraOpen := succeeds, main := .startDetector }
  | .startDetector => some { s with main := .exec }
  | .exec => none

/-- What the worker does with a frame: `RecognizeFaceFromDb` asks for the database. -/
def workerPass (s : Process V) (needRecognize : Bool) (curFrame : Mat) : Option (Process V) :=
  match detectFace detectMultiScale curFrame with
  | [] => some s
  | _ :: _ =>
      if needRecognize then
        s.withDatabase fun db =>
          match recognizeFaceFromDb V s.observers db.users curFrame with
          | .ok _ => some s
          -- the exception ends the process
          | .error _ => none
      else some s

/-- What the register thread does with a frame: `RegisterFeature` asks for the database once it has
the features of a face. -/
def registerPass (s : Process V) (curFrame : Mat) : Option (Process V) :=
  match V.detectFaces curFrame with
  | [] => some s
  | _ :: _ =>
      s.withDatabase fun db =>
        let result := registerFeature V s.observers ⟨s.lastFeatures, db.featuresVec⟩ curFrame
        some { s with
          lastFeatures := result.store.lastFeatures
          database := some { db with featuresVec := result.store.featuresVec } }

/-- The reply of a handler that compares with the users of `db`. -/
def compareReply (s : Process V) (db : FaceDataBase) (decodedMat : Mat) :
    Handled RecognizeResult :=
  match recognizeFaceFromDb V s.observers db.users decodedMat with
  | .ok found => ⟨.ok, { id := found.id, name := (found.info.getD {}).nickName }⟩
  | .error _ => ⟨.unknown, {}⟩

/-- One step of a process that runs. -/
def runningStep (s : Process V) : ProcessEvent Mat → Option (Process V)
  | .main succeeds => mainStep V table elaGui s succeeds
  | .rpcRecognizeFace handler request =>
      match s.main.serving, s.handlers handler with
      | true, .idle =>
          match V.bytesToMat request.faceImg V.noMat with
          -- the handler fails before it has asked for the database
          | .error _ => some s
          | .ok decodedMat => some (s.enter handler (.decoded decodedMat))
      | _, _ => none
  | .getInstance handler =>
      match s.handlers handler with
      | .decoded decodedMat =>
          s.withDatabase fun _ => some (s.enter handler (.holding decodedMat))
      | _ => none
  | .compareUsers handler =>
      match s.handlers handler with
      | .holding decodedMat =>
          s.database.map fun db =>
            { s.enter handler .idle with
              replies := s.replies ++ [⟨compareReply V s db decodedMat, s.loaded⟩] }
      | _ => none
  | .rpcRegister request answer =>
      if s.main.serving then
        some { s with gallery := (rpcRegister V s.observers s.gallery answer request).2 }
      else none
  | .onFrameCaptured frame =>
      if s.cameraOpen then
        some { s with detector := s.detector.map fun d => d.onFrameCaptured frame }
      else none
  | .workerIteration =>
      match s.main, s.detector with
      | .exec, some detector =>
          match detector.popFrame with
          | none => some s
          | some (curFrame, detector) =>
              workerPass V detectMultiScale { s with detector := some detector }
                detector.needRecognize curFrame
      | _, _ => none
  | .registerIteration =>
      match s.main, s.detector with
      | .exec, some detector =>
          match detector.popRegister with
          | none => some s
          | some (curFrame, detector) =>
              registerPass V { s with detector := some detector } curFrame
      | _, _ => none
  | .toggleRecognition toggled =>
      match s.main with
      | .exec =>
          s.withDetector fun d => some { s with detector := some (d.needRecognizeFace toggled) }
      | _ => none
  | .registerClicked user =>
      match s.main with
      | .exec =>
          s.withDetector fun d => some { s with detector := some (d.needRegisterFace user) }
      | _ => none
  | .faceRecognized id =>
      match s.main with
      | .exec =>
          if id = kFaceNotDetected ∨ id = kFaceAlreadyExisted then some s
          -- the slot looks the user up
          else s.withDatabase fun _ => some s
      | _ => none

/-- One step. After an abort there is none. -/
def processStep (s : Process V) (e : ProcessEvent Mat) : Option (Process V) :=
  if s.aborted then none else runningStep V detectMultiScale table elaGui s e

end Steps

/-! ## What the start-up keeps -/

variable {V}

/-- No null singleton was asked for, and no reply came out of a cache that was not loaded. -/
structure ServedAfterLoad (s : Process V) : Prop where
  running : s.aborted = false
  replied : ∀ reply ∈ s.replies, reply.loaded = true

/-- A handler asks for the database only when `main` has built it, and compares only when `main` has
loaded the cache. -/
def AfterLoad (s : Process V) : ProcessEvent Mat → Prop
  | .getInstance _ => s.main.databaseBuilt = true
  | .compareUsers _ => s.main.cacheLoaded = true
  | _ => True

/-- The singletons and the ghost follow `main`, and a handler holds the database only when it is
built. -/
structure StartupInvariant (s : Process V) : Prop extends ServedAfterLoad s where
  detector : s.detector.isSome = s.main.detectorBuilt
  database : s.database.isSome = s.main.databaseBuilt
  loaded : s.loaded = s.main.cacheLoaded
  holding : ∀ handler decodedMat, s.handlers handler = .holding decodedMat →
    s.main.databaseBuilt = true

section Step

variable {detectMultiScale : Mat → List Rect} {table : TbUser} {elaGui : Observer}
  {s t : Process V} {e : ProcessEvent Mat}

theorem Process.withDetector_of_isSome (h : s.detector.isSome = true)
    (use : Detector Mat → Option (Process V)) :
    ∃ d, s.detector = some d ∧ s.withDetector use = use d := by
  obtain ⟨d, hd⟩ := Option.isSome_iff_exists.1 h
  exact ⟨d, hd, by rw [withDetector, hd]⟩

theorem Process.withDatabase_of_isSome (h : s.database.isSome = true)
    (use : FaceDataBase → Option (Process V)) :
    ∃ db, s.database = some db ∧ s.withDatabase use = use db := by
  obtain ⟨db, hdb⟩ := Option.isSome_iff_exists.1 h
  exact ⟨db, hdb, by rw [withDatabase, hdb]⟩

/-- `main` only goes forward: a step that moves it on, with the singletons it builds. -/
theorem StartupInvariant.of_progress (hinv : StartupInvariant s) (hrunning : t.aborted = false)
    (hdetector : t.detector.isSome = t.main.detectorBuilt)
    (hdatabase : t.database.isSome = t.main.databaseBuilt)
    (hloaded : t.loaded = t.main.cacheLoaded)
    (hbuilt : s.main.databaseBuilt = true → t.main.databaseBuilt = true)
    (hhandlers : t.handlers = s.handlers) (hreplies : t.replies = s.replies) :
    StartupInvariant t where
  running := hrunning
  replied := by
    rw [hreplies]
    exact hinv.replied
  detector := hdetector
  database := hdatabase
  loaded := hloaded
  holding handler decodedMat h := by
    rw [hhandlers] at h
    exact hbuilt (hinv.holding handler decodedMat h)

/-- A step that `main` has no part in. -/
theorem StartupInvariant.of_main_eq (hinv : StartupInvariant s) (hrunning : t.aborted = false)
    (hmain : t.main = s.main) (hdetector : t.detector.isSome = s.detector.isSome)
    (hdatabase : t.database.isSome = s.database.isSome) (hloaded : t.loaded = s.loaded)
    (hhandlers : t.handlers = s.handlers) (hreplies : t.replies = s.replies) :
    StartupInvariant t := by
  refine hinv.of_progress hrunning ?_ ?_ ?_ ?_ hhandlers hreplies
  · rw [hdetector, hmain]
    exact hinv.detector
  · rw [hdatabase, hmain]
    exact hinv.database
  · rw [hloaded, hmain]
    exact hinv.loaded
  · rw [hmain]
    exact id

/-- The detector's flags and queues change, and it stays built. -/
theorem StartupInvariant.set_detector (hinv : StartupInvariant s) {d : Detector Mat}
    (hsome : s.detector = some d) (d' : Detector Mat) :
    StartupInvariant { s with detector := some d' } := by
  have hsame : (some d').isSome = s.detector.isSome := by rw [hsome]; rfl
  exact hinv.of_main_eq hinv.running rfl hsame rfl rfl rfl rfl

/-- The GUI's handlers ask for the detector and write to it. -/
theorem StartupInvariant.withDetector (hinv : StartupInvariant s) (hmain : s.main = .exec)
    {write : Detector Mat → Detector Mat}
    (ht : (s.withDetector fun d => some { s with detector := some (write d) }) = some t) :
    StartupInvariant t := by
  have hbuilt : s.detector.isSome = true := by
    rw [hinv.detector, hmain]
    rfl
  obtain ⟨d, hsome, hd⟩ := Process.withDetector_of_isSome hbuilt _
  rw [hd] at ht
  cases ht
  exact hinv.set_detector hsome (write d)

theorem StartupInvariant.enter (hinv : StartupInvariant s) {handler : Nat}
    {phase : RecognizePhase Mat}
    (hphase : ∀ decodedMat, phase = .holding decodedMat → s.main.databaseBuilt = true) :
    StartupInvariant (s.enter handler phase) where
  running := hinv.running
  replied := hinv.replied
  detector := hinv.detector
  database := hinv.database
  loaded := hinv.loaded
  holding other decodedMat h := by
    by_cases hsame : other = handler
    · subst hsame
      simp only [Process.enter, Function.update_self] at h
      exact hphase decodedMat h
    · simp only [Process.enter, Function.update_of_ne hsame] at h
      exact hinv.holding other decodedMat h

/-- A process that has built nothing. -/
theorem startupInvariant_init : StartupInvariant ({} : Process V) where
  running := rfl
  replied _ h := nomatch h
  detector := rfl
  database := rfl
  loaded := rfl
  holding _ _ h := nomatch h

/-- `main` builds each singleton once and asks for none before. -/
theorem startupInvariant_main {succeeds : Bool} (hinv : StartupInvariant s)
    (ht : mainStep V table elaGui s succeeds = some t) : StartupInvariant t := by
  have hrun := hinv.running
  have hdet := hinv.detector
  have hdb := hinv.database
  have hload := hinv.loaded
  obtain ⟨main, aborted, detector, database, observers, gallery, lastFeatures, cameraOpen, loaded,
    handlers, replies⟩ := s
  cases main with
  | buildDetector =>
      -- the assertion of `BuildAndReturn` holds: it runs once
      obtain rfl : detector = none := Option.not_isSome_iff_eq_none.1 (ne_true_of_eq_false hdet)
      cases ht
      exact hinv.of_progress hrun rfl hdb hload (fun h => nomatch h) rfl rfl
  | buildAndStart =>
      cases ht
      exact hinv.of_progress hrun hdet hdb hload (fun h => nomatch h) rfl rfl
  | buildDatabase =>
      -- likewise for the database
      obtain rfl : database = none := Option.not_isSome_iff_eq_none.1 (ne_true_of_eq_false hdb)
      cases ht
      exact hinv.of_progress hrun hdet rfl hload (fun h => nomatch h) rfl rfl
  | initDb =>
      cases ht
      exact hinv.of_progress hrun hdet hdb hload (fun _ => rfl) rfl rfl
  | loadToCache =>
      cases succeeds with
      | true =>
          cases ht
          exact hinv.of_progress hrun hdet (Option.isSome_map.trans hdb) hload (fun _ => rfl) rfl rfl
      | false =>
          cases ht
          exact hinv.of_progress hrun hdet hdb rfl (fun _ => rfl) rfl rfl
  | appendUsers rest =>
      cases rest with
      | nil =>
          cases ht
          exact hinv.of_progress hrun hdet hdb rfl (fun _ => rfl) rfl rfl
      | cons user rest =>
          cases ht
          exact hinv.of_progress hrun hdet (Option.isSome_map.trans hdb) hload (fun _ => rfl) rfl rfl
  | createGui =>
      obtain ⟨d, rfl⟩ := Option.isSome_iff_exists.1 hdet
      cases ht
      exact hinv.of_progress hrun hdet hdb hload (fun _ => rfl) rfl rfl
  | openCamera =>
      cases ht
      exact hinv.of_progress hrun hdet hdb hload (fun _ => rfl) rfl rfl
  | startDetector =>
      cases ht
      exact hinv.of_progress hrun hdet hdb hload (fun _ => rfl) rfl rfl
  | exec => cases ht

/-- Once the database is built the worker's pass is its loop body on the cached users. -/
theorem workerPass_eq {db : FaceDataBase} (hdb : s.database = some db) (needRecognize : Bool)
    (curFrame : Mat) :
    workerPass V detectMultiScale s needRecognize curFrame =
      match workerBody V detectMultiScale s.observers db.users needRecognize curFrame with
      | .ok _ => some s
      | .error _ => none := by
  rw [workerPass, workerBody]
  cases detectFace detectMultiScale curFrame with
  | nil => rfl
  | cons face rest =>
      cases needRecognize with
      | false => rfl
      | true =>
          simp only [if_true, Process.withDatabase, hdb]
          cases recognizeFaceFromDb V s.observers db.users curFrame with
          | ok found => rfl
          | error err => rfl

theorem startupInvariant_workerPass {needRecognize : Bool} {curFrame : Mat}
    (hinv : StartupInvariant s) (hbuilt : s.main.databaseBuilt = true)
    (ht : workerPass V detectMultiScale s needRecognize curFrame = some t) :
    StartupInvariant t := by
  obtain ⟨db, hdb⟩ := Option.isSome_iff_exists.1 (hinv.database.trans hbuilt)
  rw [workerPass_eq hdb] at ht
  split at ht
  · cases ht
    exact hinv
  · cases ht

theorem startupInvariant_registerPass {curFrame : Mat} (hinv : StartupInvariant s)
    (hbuilt : s.main.databaseBuilt = true) (ht : registerPass V s curFrame = some t) :
    StartupInvariant t := by
  rw [registerPass] at ht
  split at ht
  · cases ht
    exact hinv
  · obtain ⟨db, hsome, hdb⟩ := Process.withDatabase_of_isSome (hinv.database.trans hbuilt) _
    rw [hdb] at ht
    cases ht
    exact hinv.of_main_eq hinv.running rfl rfl (by rw [hsome]; rfl) rfl rfl rfl

theorem startupInvariant_step (hinv : StartupInvariant s) (hguard : AfterLoad s e)
    (ht : processStep V detectMultiScale table elaGui s e = some t) : StartupInvariant t := by
  have hrun := hinv.running
  rw [processStep, hrun, if_neg Bool.false_ne_true] at ht
  cases e with
  | main succeeds => exact startupInvariant_main hinv ht
  | rpcRecognizeFace handler request =>
      simp only [runningStep] at ht
      split at ht
      · split at ht
        · cases ht
          exact hinv
        · cases ht
          exact hinv.enter fun _ h => nomatch h
      · cases ht
  | getInstance handler =>
      have hbuilt : s.main.databaseBuilt = true := hguard
      simp only [runningStep] at ht
      split at ht
      · obtain ⟨db, -, hdb⟩ := Process.withDatabase_of_isSome (hinv.database.trans hbuilt) _
        rw [hdb] at ht
        cases ht
        exact hinv.enter fun _ _ => hbuilt
      · cases ht
  | compareUsers handler =>
      have hload : s.loaded = true := hinv.loaded.trans hguard
      simp only [runningStep] at ht
      split at ht
      · obtain ⟨db, -, rfl⟩ := Option.map_eq_some_iff.1 ht
        -- one reply more, and the load is done by now
        have hidle : StartupInvariant (s.enter handler .idle) := hinv.enter fun _ h => nomatch h
        refine { hidle with replied := ?_ }
        intro reply hreply
        rcases List.mem_append.1 hreply with hold | hnew
        · exact hinv.replied reply hold
        · rw [List.mem_singleton.1 hnew]
          exact hload
      · cases ht
  | rpcRegister request answer =>
      simp only [runningStep] at ht
      split at ht
      · cases ht
        exact hinv.of_main_eq hrun rfl rfl rfl rfl rfl rfl
      · cases ht
  | onFrameCaptured frame =>
      simp only [runningStep] at ht
      split at ht
      · cases ht
        exact hinv.of_main_eq hrun rfl Option.isSome_map rfl rfl rfl rfl
      · cases ht
  | workerIteration =>
      simp only [runningStep] at ht
      split at ht
      · next hmain hsome =>
          split at ht
          · cases ht
            exact hinv
          · apply startupInvariant_workerPass (hinv.set_detector hsome _) _ ht
            rw [hmain]
            rfl
      · cases ht
  | registerIteration =>
      simp only [runningStep] at ht
      split at ht
      · next hmain hsome =>
          split at ht
          · cases ht
            exact hinv
          · apply startupInvariant_registerPass (hinv.set_detector hsome _) _ ht
            rw [hmain]
            rfl
      · cases ht
  | toggleRecognition toggled =>
      simp only [runningStep] at ht
      split at ht
      · next hmain => exact hinv.withDetector hmain ht
      · cases ht
  | registerClicked user =>
      simp only [runningStep] at ht
      split at ht
      · next hmain => exact hinv.withDetector hmain ht
      · cases ht
  | faceRecognized id =>
      simp only [runningStep] at ht
      split at ht
      · next hmain =>
          split at ht
          · cases ht
            exact hinv
          · have hbuilt : s.database.isSome = true := hinv.database.trans (by rw [hmain]; rfl)
            obtain ⟨db, -, hdb⟩ := Process.withDatabase_of_isSome hbuilt _
            rw [hdb] at ht
            cases ht
            exact hinv
      · cases ht

/-- A handler that was given the database is never kept from comparing. -/
theorem compareUsers_enabled (hinv : StartupInvariant s) {handler : Nat} {decodedMat : Mat}
    (h : s.handlers handler = .holding decodedMat) :
    ∃ t, processStep V detectMultiScale table elaGui s (.compareUsers handler) = some t := by
  have hbuilt : s.database.isSome = true := hinv.database.trans (hinv.holding handler decodedMat h)
  obtain ⟨db, hdb⟩ := Option.isSome_iff_exists.1 hbuilt
  rw [processStep, hinv.running, if_neg Bool.false_ne_true]
  simp only [runningStep, h, hdb]
  exact ⟨_, rfl⟩

/-- A handler that comes too early aborts the server, or replies from a cache that is not loaded. -/
theorem not_servedAfterLoad_of_early (hinv : StartupInvariant s) (hguard : ¬ AfterLoad s e)
    (ht : processStep V detectMultiScale table elaGui s e = some t) : ¬ ServedAfterLoad t := by
  intro hserved
  rw [processStep, hinv.running, if_neg Bool.false_ne_true] at ht
  cases e with
  | getInstance handler =>
      -- `main` is not past `BuildAndReturn`, so the instance is null
      have hnone : s.database = none := by
        apply Option.not_isSome_iff_eq_none.1
        rw [hinv.database]
        exact hguard
      simp only [runningStep] at ht
      split at ht
      · rw [Process.withDatabase, hnone] at ht
        cases ht
        cases hserved.running
      · cases ht
  | compareUsers handler =>
      -- `main` is not past `LoadToCache`, and the reply says so
      have hload : ¬ s.loaded = true := by
        rw [hinv.loaded]
        exact hguard
      simp only [runningStep] at ht
      split at ht
      · obtain ⟨db, -, rfl⟩ := Option.map_eq_some_iff.1 ht
        apply hload
        exact hserved.replied _ (List.mem_append.2 (Or.inr List.mem_cons_self))
      · cases ht
  | _ => exact hguard trivial

/-- The reply is the one of `RpcManagerImpl::RecognizeFace` on the users of that moment. -/
theorem compareReply_eq {request : RecognizeRequest} {decodedMat : Mat}
    (hdec : V.bytesToMat request.faceImg V.noMat = .ok decodedMat) (s : Process V)
    (db : FaceDataBase) :
    compareReply V s db decodedMat = (rpcRecognizeFace V s.observers db.users request).handled := by
  simp only [rpcRecognizeFace, hdec, compareReply]
  cases hfound : recognizeFaceFromDb V s.observers db.users decodedMat with
  | ok found => rfl
  | error err => rfl

end Step

/-- **Serving after start-up.** In a run of `main` interleaved with handlers, captures, the two
threads and the GUI, no null singleton is ever asked for and no `RecognizeFace` handler replies from
a cache before the first `LoadToCache` is done, if and only if every handler asks for the database
after `main` has built it and compares after `main` has loaded the cache. -/
theorem served_after_load_iff (detectMultiScale : Mat → List Rect) (table : TbUser)
    (elaGui : Observer) {es : List (ProcessEvent Mat)} {s : Process V}
    (h : Run (processStep V detectMultiScale table elaGui) {} es s) :
    Always (processStep V detectMultiScale table elaGui) ServedAfterLoad {} es ↔
      GuardedRun (processStep V detectMultiScale table elaGui) AfterLoad {} es s :=
  h.always_iff_guarded startupInvariant_init (fun _ hs => hs.toServedAfterLoad)
    (fun _ _ _ => startupInvariant_step) (fun _ _ _ => not_servedAfterLoad_of_early)

/-- A request that arrives right after `BuildAndStart` and is served late. -/
def lateRequest : List (ProcessEvent Nat) :=
  [.main true, .main true, .rpcRecognizeFace 0 { faceImg := [2] }, .main true, .getInstance 0,
    .main true, .main true, .main true, .main true, .compareUsers 0]

theorem served_after_load_late :
    ∃ s, Run (processStep sampleVision (fun _ => []) oneRow 9) {} lateRequest s ∧
      Always (processStep sampleVision (fun _ => []) oneRow 9) ServedAfterLoad {} lateRequest := by
  have hrun : GuardedRun (processStep sampleVision (fun _ => []) oneRow 9) AfterLoad {}
      lateRequest _ :=
    .snoc (.snoc (.snoc (.snoc (.snoc (.snoc (.snoc (.snoc (.snoc (.snoc .nil trivial rfl)
      trivial rfl) trivial rfl) trivial rfl) (by rfl) rfl) trivial rfl) trivial rfl) trivial rfl)
      trivial rfl) (by rfl) rfl
  exact ⟨_, hrun.run, (served_after_load_iff _ _ _ hrun.run).2 hrun⟩

/-- A request served as soon as `BuildAndStart` has returned aborts the server; one served before
`LoadToCache` is told that nobody was recognised, although the person is in the table. -/
theorem not_served_after_load :
    (∃ s, Run (processStep sampleVision (fun _ => []) oneRow 9) {}
        [.main true, .main true, .rpcRecognizeFace 0 { faceImg := [2] }, .getInstance 0] s ∧
      s.aborted = true ∧ ¬ ServedAfterLoad s) ∧
    ∃ s, Run (processStep sampleVision (fun _ => []) oneRow 9) {}
        [.main true, .main true, .main true, .rpcRecognizeFace 0 { faceImg := [2] }, .getInstance 0,
          .compareUsers 0] s ∧
      s.replies = [⟨⟨.ok, { id := -1 }⟩, false⟩] ∧ ¬ ServedAfterLoad s := by
  refine ⟨⟨_, .snoc (.snoc (.snoc (.snoc .nil rfl) rfl) rfl) rfl, rfl, ?_⟩,
    ⟨_, .snoc (.snoc (.snoc (.snoc (.snoc (.snoc .nil rfl) rfl) rfl) rfl) rfl) rfl, ?_, ?_⟩⟩
  · intro hserved
    cases hserved.running
  · decide +kernel
  · intro hserved
    cases hserved.replied _ List.mem_cons_self

end ArmFaceID.Server
