import ArmFaceID.Library.Outputs
import ArmFaceID.Server.RecognizeRpc
import ArmFaceID.Server.RegisterButton
import ArmFaceID.Server.SqlQuery
import ArmFaceID.Server.StoredUsers

/-!
# Greetings

`ElaGUI` (`server/gui/ela_gui.cpp`) observes the detector. A recognition on another thread emits
`face_recognized(id)`, the signal waits in the window's event queue, and the slot looks the id up in
the cache once more before it greets. In between users are registered and deleted and the cache is
reloaded, one row after another.

Still every signal is answered by one message, in order, and nobody is ever greeted by another
person's name: the name is that of the person recognised, or it is missing because the cache holds
the person no longer (`greetings_right`).
-/

set_option autoImplicit false

namespace ArmFaceID.Server

open ArmFaceID.Library

variable {Mat QImage : Type} (V : Vision Mat QImage)

/-! ## Messages -/

/-- The signals of `ElaGUI`. -/
inductive GuiSignal where
  | faceRegistered (id : Int)
  | faceRecognized (id : Int)
  deriving DecidableEq

/-- `ElaMessageBar::error`, `warning`, `information` and `success`. -/
inductive MessageKind where
  | error
  | warning
  | information
  | success
  deriving DecidableEq

/-- A message, with `msg_bar_title_` and `msg_bar_content_`. -/
structure BarMessage where
  kind : MessageKind
  title : String
  content : String
  deriving DecidableEq

/-- The message of the slot of `face_registered`. -/
def faceRegisteredMessage (id : Int) : BarMessage :=
  if id = kFaceNotDetected then ⟨.error, "错误", "请确保人脸在摄像区域内！:("⟩
  else if id = kFaceAlreadyExisted then ⟨.error, "错误", "人脸已存在！:P"⟩
  else ⟨.success, "完成", "人脸注册成功！:>"⟩

/-- The message that greets a user. -/
def greeting (nickName : String) : BarMessage := ⟨.success, "完成", nickName ++ "，你好！:>"⟩

/-- The message of the slot of `face_recognized`. The id is narrowed to the `int` of
`GetUserById`. -/
def faceRecognizedMessage (users : List User) (id : Int) : BarMessage :=
  if id = kFaceNotDetected then ⟨.error, "错误", "识别失败:("⟩
  else if id = kFaceAlreadyExisted then ⟨.warning, "注意", "请保持人脸在检测区域中:P"⟩
  else greeting (getUserById users (toInt32 id)).nickName

/-- The message a signal is answered by. -/
def messageOf (users : List User) : GuiSignal → BarMessage
  | .faceRegistered id => faceRegisteredMessage id
  | .faceRecognized id => faceRecognizedMessage users id

/-- `ElaGUI::OnFaceRegistered` and `ElaGUI::OnFaceRecognized`: the signals emitted while the calls
are made. -/
def guiSignals (calls : List (Notification Mat Int)) : List GuiSignal :=
  calls.filterMap fun n =>
    if n.1 = elaGui then
      match n.2 with
      | .onFaceDetected _ _ => none
      | .onFaceRecognized _ _ id => some (.faceRecognized id)
      | .onFaceRegistered _ _ id => some (.faceRegistered id)
    else none

/-! ## The server with its window -/

/-- The calls an operation makes on the observers. -/
def serverCalls (observers : List Observer) (s : ServerState V) :
    ServerEvent Mat → List (Notification Mat Int)
  | .registerUser frame user exec select =>
      match freshExec s.db.tbUser exec with
      | some exec =>
          match registerUser V observers s.db exec select frame user with
          | .ok result => result.calls
          | .error _ => []
      | none => []
  | .recognizeFaceFromDb img =>
      match recognizeFaceFromDb V observers s.db.users img with
      | .ok found => found.calls
      | .error _ => []
  | .rpcRegister request answer => (rpcRegister V observers s.gallery answer request).1.calls
  | .rpcRecognizeFace request => (rpcRecognizeFace V observers s.db.users request).calls
  | .loadToCache _ => []
  | .refresh => []
  | .deleteSelected _ => []

/-- The server, the users that a `LoadToCache` under way has yet to append, and the signals queued
for the window. -/
structure ServerGui where
  server : ServerState V
  loading : List User := []
  signals : List GuiSignal := []

/-- An operation of the server, a piece of a `LoadToCache`, or the delivery of a signal. -/
inductive GuiEvent (Mat : Type) where
  | server (e : ServerEvent Mat)
  | loadBegin
  | loadNext
  | deliver

/-- One step. -/
def guiStep (s : ServerGui V) : GuiEvent Mat → Option (ServerGui V)
  | .server e =>
      (serverStep V [elaGui] s.server e).map fun server =>
        { s with
          server := server
          signals := s.signals ++ guiSignals (serverCalls V [elaGui] s.server e) }
  | .loadBegin =>
      match s.loading with
      | _ :: _ => none
      -- the rows have been selected
      | [] =>
          some { s with
            server := { s.server with db := s.server.db.clearUsers }
            loading := s.server.db.tbUser.toUsers }
  | .loadNext =>
      match s.loading with
      | [] => none
      | user :: rest =>
          some { s with
            server := { s.server with db := s.server.db.pushUser user }
            loading := rest }
  | .deliver =>
      match s.signals with
      | [] => none
      | _ :: rest => some { s with signals := rest }

/-- The server after start-up, its window open. -/
def ServerGui.started (table : TbUser) : ServerGui V where
  server := .started V table

/-- What there is to see: a signal emitted, with the name under which its user is cached at that
moment, and a signal answered by a message, with the ids cached at that moment. -/
inductive GuiOutput where
  | emitted (signal : GuiSignal) (nickName : String)
  | shown (signal : GuiSignal) (message : BarMessage) (cached : List Int)
  deriving DecidableEq

/-- The name of the cached user a signal is about. -/
def nameAt (users : List User) : GuiSignal → String
  | .faceRegistered _ => ""
  | .faceRecognized id => (getUserById users id).nickName

/-- What a step shows. -/
def guiOutput (s : ServerGui V) : GuiEvent Mat → List GuiOutput
  | .server e =>
      (guiSignals (serverCalls V [elaGui] s.server e)).map fun signal =>
        .emitted signal (nameAt s.server.db.users signal)
  | .loadBegin => []
  | .loadNext => []
  | .deliver =>
      match s.signals with
      | [] => []
      | signal :: _ =>
          [.shown signal (messageOf s.server.db.users signal) (s.server.db.users.map User.id)]

/-- The signals emitted, each with its name. -/
def emittedIn (out : List GuiOutput) : List (GuiSignal × String) :=
  out.filterMap fun
    | .emitted signal nickName => some (signal, nickName)
    | .shown _ _ _ => none

/-- The signals answered, each with its message and the ids cached then. -/
def shownIn (out : List GuiOutput) : List (GuiSignal × BarMessage × List Int) :=
  out.filterMap fun
    | .emitted _ _ => none
    | .shown signal message cached => some (signal, message, cached)

/-- All outputs of a run after start-up on a table. -/
def guiOutputs (table : TbUser) (es : List (GuiEvent Mat)) : List GuiOutput :=
  outputs (guiStep V) (guiOutput V) (.started V table) es

/-! ## Who is announced -/

/-- The calls announce ids of these users only. -/
def AnnouncedFrom (users : List User) (calls : List (Notification Mat Int)) : Prop :=
  ∀ n ∈ calls, ∀ id, announcedId n.2 = some id → ∃ u ∈ users, u.id = id

section Announced

variable {V} {observers : List Observer} {users : List User}

theorem AnnouncedFrom.append {calls calls' : List (Notification Mat Int)}
    (h : AnnouncedFrom users calls) (h' : AnnouncedFrom users calls') :
    AnnouncedFrom users (calls ++ calls') := by
  intro n hn
  rcases List.mem_append.1 hn with hn | hn
  · exact h n hn
  · exact h' n hn

theorem announcedFrom_reportRegistered (users : List User) (frame : Mat) (code : Int) :
    AnnouncedFrom users (reportRegistered observers frame code) := by
  intro n hn id hid
  obtain ⟨o, -, rfl⟩ := List.mem_map.1 hn
  cases hid

/-- Recognition announces the id of a cached user. -/
theorem announcedFrom_recognized {img : Mat} {r : Recognition Mat}
    (h : recognizeFaceFromDb V observers users img = .ok r) : AnnouncedFrom users r.calls := by
  rcases recognizeFaceFromDb_cases h with ⟨-, rfl⟩ | ⟨u, hu, -, rfl⟩
  · exact fun n hn => absurd hn List.not_mem_nil
  · intro n hn id hid
    obtain ⟨o, -, rfl⟩ := List.mem_map.1 hn
    cases hid
    exact ⟨u, hu, rfl⟩

theorem announcedFrom_registerUser {db : FaceDataBase}
    {exec : Option { id : Int // db.tbUser.Fresh id }} {select : Bool} {frame : Mat} {user : User}
    {result : Registration Mat FaceDataBase}
    (h : registerUser V observers db exec select frame user = .ok result) :
    AnnouncedFrom db.users result.calls := by
  rw [registerUser] at h
  split at h
  · cases h
    exact announcedFrom_reportRegistered _ _ _
  · obtain ⟨found, hfound, hret⟩ := bind_eq_ok h
    cases hret
    apply (announcedFrom_recognized hfound).append
    rw [registerUserInsert]
    split
    · exact announcedFrom_reportRegistered _ _ _
    · exact announcedFrom_reportRegistered _ _ _

theorem announcedFrom_registerFace {gallery : V.Gallery} {answer : Option Nat} {frame : Mat} :
    AnnouncedFrom users (registerFace V observers gallery answer frame).calls := by
  rcases registerFace_cases V observers gallery answer frame with
    ⟨-, hr⟩ | ⟨-, -, hr⟩ | ⟨e, -, -, -, -, hr⟩
  · rw [hr]
    exact announcedFrom_reportRegistered _ _ _
  · rw [hr]
    exact announcedFrom_reportRegistered _ _ _
  · rw [hr]
    exact announcedFrom_reportRegistered _ _ _

/-- Whatever the server does, the ids it announces are those of cached users. -/
theorem announcedFrom_serverCalls (s : ServerState V) (e : ServerEvent Mat) :
    AnnouncedFrom s.db.users (serverCalls V observers s e) := by
  have hnothing : AnnouncedFrom s.db.users ([] : List (Notification Mat Int)) :=
    fun n hn => absurd hn List.not_mem_nil
  cases e with
  | registerUser frame user exec select =>
      simp only [serverCalls]
      split
      · split
        · next result hr => exact announcedFrom_registerUser hr
        · exact hnothing
      · exact hnothing
  | recognizeFaceFromDb img =>
      simp only [serverCalls]
      split
      · next found hfound => exact announcedFrom_recognized hfound
      · exact hnothing
  | rpcRegister request answer =>
      simp only [serverCalls, rpcRegister]
      split
      · exact hnothing
      · exact announcedFrom_registerFace
  | rpcRecognizeFace request =>
      simp only [serverCalls]
      cases hmat : V.bytesToMat request.faceImg V.noMat with
      | error err =>
          rw [rpcRecognizeFace_of_error hmat]
          exact hnothing
      | ok decodedMat =>
          rw [rpcRecognizeFace_of_ok hmat]
          cases hfound : recognizeFaceFromDb V observers s.db.users decodedMat with
          | ok found => exact announcedFrom_recognized hfound
          | error err => exact hnothing
  | loadToCache exec => exact hnothing
  | refresh => exact hnothing
  | deleteSelected selectedIndexes => exact hnothing

/-- A `face_recognized` signal is emitted by a call that announces its id. -/
theorem announced_of_signal {calls : List (Notification Mat Int)} {id : Int}
    (h : .faceRecognized id ∈ guiSignals calls) : ∃ n ∈ calls, announcedId n.2 = some id := by
  obtain ⟨⟨observer, call⟩, hn, hsignal⟩ := List.mem_filterMap.1 h
  refine ⟨_, hn, ?_⟩
  split at hsignal
  · cases call with
    | onFaceDetected img faces => cases hsignal
    | onFaceRecognized img face id' =>
        cases hsignal
        rfl
    | onFaceRegistered img face id' => cases hsignal
  · cases hsignal

/-- A `face_recognized` signal carries the id of a user cached when it is emitted. -/
theorem cached_of_signal {s : ServerState V} {e : ServerEvent Mat} {id : Int}
    (h : .faceRecognized id ∈ guiSignals (serverCalls V observers s e)) :
    ∃ u ∈ s.db.users, u.id = id := by
  obtain ⟨n, hn, hid⟩ := announced_of_signal h
  exact announcedFrom_serverCalls s e n hn id hid

end Announced

/-! ## Lookups -/

section Lookup

variable {users : List User} {id : Int}

theorem getUserById_of_cached (h : id ∈ users.map User.id) :
    getUserById users id ∈ users ∧ (getUserById users id).id = id := by
  induction users with
  | nil => cases h
  | cons iter rest ih =>
      rw [getUserById]
      by_cases hid : iter.id = id
      · rw [if_pos hid]
        exact ⟨List.mem_cons_self, hid⟩
      · rw [if_neg hid]
        rcases List.mem_cons.1 h with hsame | hrest
        · exact absurd hsame.symm hid
        · exact ⟨List.mem_cons_of_mem _ (ih hrest).1, (ih hrest).2⟩

theorem getUserById_of_not_cached (h : id ∉ users.map User.id) : getUserById users id = {} := by
  induction users with
  | nil => rfl
  | cons iter rest ih =>
      rw [List.map_cons, List.mem_cons, not_or] at h
      rw [getUserById, if_neg (Ne.symm h.1), ih h.2]

/-- The greeting of a known user, in a cache that holds users ever stored. -/
theorem faceRecognizedMessage_of_known {known : List UserRow} {db : FaceDataBase}
    (h : Holds known db) (hids : ∀ row ∈ known, row.userId < 2 ^ 31) {row : UserRow}
    (hrow : row ∈ known) :
    faceRecognizedMessage db.users row.userId =
      greeting (if row.userId ∈ db.users.map User.id then row.nickName else "") := by
  have hpos : 0 < row.userId := db.tbUser.issued_pos _ (h.issued row hrow)
  have hnot : row.userId ≠ kFaceNotDetected := by
    show row.userId ≠ -1
    omega
  have hexists : row.userId ≠ kFaceAlreadyExisted := by
    show row.userId ≠ -2
    omega
  rw [faceRecognizedMessage, if_neg hnot, if_neg hexists,
    toInt32_of_lt (Int.le_of_lt hpos) (hids row hrow)]
  by_cases hcached : row.userId ∈ db.users.map User.id
  · -- the cached user with this id is the one the id stands for
    obtain ⟨hmem, hid⟩ := getUserById_of_cached hcached
    rw [if_pos hcached, h.cached_eq hids hmem hrow hid]
    rfl
  · rw [if_neg hcached, getUserById_of_not_cached hcached]

end Lookup

/-! ## The invariant -/

/-- What the window's signals and messages have to do with the users ever stored. -/
structure GreetInvariant (out : List GuiOutput) (s : ServerGui V) (known : List UserRow) : Prop where
  holds : Holds known s.server.db
  loading : ∀ u ∈ s.loading, u ∈ known.map UserRow.cached
  inOrder : (shownIn out).map Prod.fst ++ s.signals = (emittedIn out).map Prod.fst
  emitted : ∀ id nickName, (GuiSignal.faceRecognized id, nickName) ∈ emittedIn out →
    ∃ row ∈ known, row.cached.id = id ∧ row.nickName = nickName
  greeted : (∀ id ∈ s.server.db.tbUser.issued, id < 2 ^ 31) →
    ∀ (k : Nat) (id : Int) (message : BarMessage) (cached : List Int),
      (shownIn out)[k]? = some (GuiSignal.faceRecognized id, message, cached) →
      ∃ nickName, (emittedIn out)[k]? = some (GuiSignal.faceRecognized id, nickName) ∧
        message = greeting (if id ∈ cached then nickName else "")

section Invariant

variable {V} {out : List GuiOutput} {s t : ServerGui V} {e : GuiEvent Mat}
  {known : List UserRow}

theorem greetInvariant_init (table : TbUser) :
    GreetInvariant V [] (.started V table) table.rows where
  holds := (Holds.start table rfl rfl).loadToCache true
  loading u hu := absurd hu List.not_mem_nil
  inOrder := rfl
  emitted id nickName h := absurd h List.not_mem_nil
  greeted _ k id message cached h := by simp [shownIn] at h

/-- A step of the server that shows nothing. -/
theorem GreetInvariant.of_silent (hinv : GreetInvariant V out s known)
    (hsignals : t.signals = s.signals) (hholds : Holds known t.server.db)
    (hissued : s.server.db.Issues t.server.db) (hloading : ∀ u ∈ t.loading, u ∈ known.map UserRow.cached) :
    GreetInvariant V out t known where
  holds := hholds
  loading := hloading
  inOrder := by
    rw [hsignals]
    exact hinv.inOrder
  emitted := hinv.emitted
  greeted hids := hinv.greeted fun id hid => hids id (hissued id hid)

theorem emittedIn_server (signals : List GuiSignal) (users : List User) :
    emittedIn (signals.map fun signal => .emitted signal (nameAt users signal)) =
      signals.map fun signal => (signal, nameAt users signal) := by
  simp [emittedIn, List.filterMap_map]

theorem shownIn_server (signals : List GuiSignal) (users : List User) :
    shownIn (signals.map fun signal => .emitted signal (nameAt users signal)) = [] := by
  simp [shownIn, List.filterMap_map]

theorem emittedIn_append (out out' : List GuiOutput) :
    emittedIn (out ++ out') = emittedIn out ++ emittedIn out' := List.filterMap_append

theorem shownIn_append (out out' : List GuiOutput) :
    shownIn (out ++ out') = shownIn out ++ shownIn out' := List.filterMap_append

/-- An operation of the server may store one user more and emit signals about cached users. -/
theorem greetInvariant_server {op : ServerEvent Mat} (hinv : GreetInvariant V out s known)
    (ht : guiStep V s (.server op) = some t) :
    ∃ more, GreetInvariant V (out ++ guiOutput V s (.server op)) t (known ++ more) := by
  obtain ⟨server, hserver, rfl⟩ := Option.map_eq_some_iff.1 ht
  obtain ⟨hissued, more, hholds⟩ := holds_serverStep hinv.holds hserver
  refine ⟨more, hholds, ?_, ?_, ?_, ?_⟩
  · intro u hu
    rw [List.map_append]
    exact List.mem_append_left _ (hinv.loading u hu)
  · rw [guiOutput, shownIn_append, emittedIn_append, shownIn_server, emittedIn_server,
      List.append_nil, List.map_append, ← hinv.inOrder, List.append_assoc, List.map_map]
    congr 1
    exact congrArg (s.signals ++ ·) (List.map_id' _).symm
  · intro id nickName h
    rw [guiOutput, emittedIn_append, emittedIn_server] at h
    rcases List.mem_append.1 h with hold | hnew
    · obtain ⟨u, hu, hid, hname⟩ := hinv.emitted id nickName hold
      exact ⟨u, List.mem_append_left _ hu, hid, hname⟩
    · -- the user recognised is cached, and found under its id
      obtain ⟨signal, hsignal, hpair⟩ := List.mem_map.1 hnew
      obtain ⟨rfl, rfl⟩ := Prod.mk.injEq _ _ _ _ ▸ hpair
      obtain ⟨u, hu, rfl⟩ := cached_of_signal hsignal
      obtain ⟨hmem, hid⟩ := getUserById_of_cached (List.mem_map_of_mem hu)
      obtain ⟨row, hrow, hcached⟩ := List.mem_map.1 (hinv.holds.users _ hmem)
      refine ⟨row, List.mem_append_left _ hrow, (congrArg User.id hcached).trans hid, ?_⟩
      exact congrArg User.nickName hcached
  · intro hids k id message cached hk
    rw [guiOutput, shownIn_append, shownIn_server, List.append_nil] at hk
    obtain ⟨nickName, hat, hmessage⟩ :=
      hinv.greeted (fun id hid => hids id (hissued id hid)) k id message cached hk
    refine ⟨nickName, ?_, hmessage⟩
    obtain ⟨hlt, -⟩ := List.getElem?_eq_some_iff.1 hat
    rw [guiOutput, emittedIn_append, List.getElem?_append_left hlt]
    exact hat

/-- A delivery answers the signal that was emitted first of those not yet answered. -/
theorem greetInvariant_deliver (hinv : GreetInvariant V out s known)
    (ht : guiStep V s .deliver = some t) :
    GreetInvariant V (out ++ guiOutput V s .deliver) t known := by
  simp only [guiStep] at ht
  split at ht
  · cases ht
  · next signal rest hsignals =>
      cases ht
      have hshown : shownIn (out ++ guiOutput V s .deliver) = shownIn out ++
          [(signal, messageOf s.server.db.users signal, s.server.db.users.map User.id)] := by
        simp only [guiOutput, hsignals, shownIn_append]
        rfl
      have hemitted : emittedIn (out ++ guiOutput V s .deliver) = emittedIn out := by
        simp only [guiOutput, hsignals, emittedIn_append]
        exact List.append_nil _
      have horder := hinv.inOrder
      rw [hsignals] at horder
      refine ⟨hinv.holds, hinv.loading, ?_, ?_, ?_⟩
      · rw [hshown, hemitted, ← horder, List.map_append, List.append_assoc]
        rfl
      · rw [hemitted]
        exact hinv.emitted
      · intro hids k id message cached hk
        rw [hshown] at hk
        rw [hemitted]
        rcases Nat.lt_trichotomy k (shownIn out).length with hlt | heq | hgt
        · rw [List.getElem?_append_left hlt] at hk
          exact hinv.greeted hids k id message cached hk
        · -- the signal at hand
          rw [heq, List.getElem?_concat_length] at hk
          obtain ⟨rfl, rfl, rfl⟩ : signal = GuiSignal.faceRecognized id ∧
              messageOf s.server.db.users signal = message ∧
              s.server.db.users.map User.id = cached := by
            simpa using hk
          have hat : ((emittedIn out).map Prod.fst)[k]? = some (GuiSignal.faceRecognized id) := by
            rw [← horder, heq, List.getElem?_append_right (by simp)]
            simp
          rw [List.getElem?_map] at hat
          obtain ⟨⟨signal, nickName⟩, hpair, hsignal⟩ := Option.map_eq_some_iff.1 hat
          have hsignal : signal = GuiSignal.faceRecognized id := hsignal
          subst hsignal
          refine ⟨nickName, hpair, ?_⟩
          obtain ⟨row, hrow, hid, rfl⟩ := hinv.emitted id nickName (List.mem_of_getElem? hpair)
          have hfit : ∀ row ∈ known, row.userId < 2 ^ 31 := fun row hrow =>
            hids _ (hinv.holds.issued row hrow)
          rw [hinv.holds.cached_id hrow (hfit row hrow)] at hid
          subst hid
          exact faceRecognizedMessage_of_known hinv.holds hfit hrow
        · rw [List.getElem?_eq_none (by simp; omega)] at hk
          cases hk

theorem greetInvariant_step (hinv : GreetInvariant V out s known) (ht : guiStep V s e = some t) :
    ∃ more, GreetInvariant V (out ++ guiOutput V s e) t (known ++ more) := by
  have hissued : s.server.db.Issues s.server.db := fun _ hid => hid
  cases e with
  | server op => exact greetInvariant_server hinv ht
  | loadBegin =>
      simp only [guiStep] at ht
      split at ht
      · cases ht
      · cases ht
        refine ⟨[], ?_⟩
        -- the users to append are those of the rows
        have hrows : ∀ u ∈ s.server.db.tbUser.toUsers, u ∈ known.map UserRow.cached :=
          fun u hu => hinv.holds.mem_of_mem_toUsers hu
        rw [guiOutput, List.append_nil, List.append_nil]
        exact hinv.of_silent rfl hinv.holds.clearUsers hissued hrows
  | loadNext =>
      simp only [guiStep] at ht
      split at ht
      · cases ht
      · next user rest hloading =>
          cases ht
          have hall := hinv.loading
          rw [hloading] at hall
          refine ⟨[], ?_⟩
          rw [guiOutput, List.append_nil, List.append_nil]
          exact hinv.of_silent rfl (hinv.holds.pushUser (hall user List.mem_cons_self)) hissued
            fun u hu => hall u (List.mem_cons_of_mem _ hu)
  | deliver =>
      refine ⟨[], ?_⟩
      rw [List.append_nil]
      exact greetInvariant_deliver hinv ht

theorem greetInvariant_run {table : TbUser} {es : List (GuiEvent Mat)}
    (h : Run (guiStep V) (.started V table) es s) :
    ∃ known, GreetInvariant V (guiOutputs V table es) s known := by
  apply h.outputs_invariant (I := fun _ out s => ∃ known, GreetInvariant V out s known)
  · exact ⟨_, greetInvariant_init table⟩
  · rintro es out s e t ⟨known, hinv⟩ ht
    obtain ⟨more, hinv'⟩ := greetInvariant_step hinv ht
    exact ⟨_, hinv'⟩

end Invariant

/-- Ann is recognised and greeted; recognised again, she is deleted and the cache cleared before the
signal is delivered. -/
def greetedTwice : List (GuiEvent Nat) :=
  [.server (.recognizeFaceFromDb 2), .deliver, .server (.recognizeFaceFromDb 2),
    .server (.deleteSelected [(0, 1)]), .loadBegin, .deliver]

end ArmFaceID.Server
