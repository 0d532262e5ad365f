import ArmFaceID.Library.Outputs
import ArmFaceID.Library.Replica
import ArmFaceID.Server.DeleteSelection
import ArmFaceID.Server.StoredUsers

/-!
# Sessions

The file of the database outlives the process. At start-up `InitDb` creates the table unless the file
has it already, `LoadToCache` fills an empty cache, and the table page selects. A session ends at any
moment between two operations.

The table and the cache are a store and its copy (`Library/Replica.lean`): over any number of sessions
the table holds who was stored and not deleted since, in order, and the cache what the table held
when it was last loaded, with the ids narrowed to `int` (`installation_remembers`). So recognition,
while ids fit an `int`, knows exactly those who were stored, in whichever session, and not deleted
before the last load (`recognised_remembered`).
-/

set_option autoImplicit false

namespace ArmFaceID.Server

open ArmFaceID.Library

variable {Mat QImage : Type} (V : Vision Mat QImage) (observers : List Observer)

/-! ## The program and its file -/

/-- The file, with `tb_user` once it is created, and the server while it runs. -/
inductive Installation where
  | stopped (file : Option TbUser)
  | running (server : ServerState V)

inductive SessionEvent (Mat : Type) where
  | start (exec : Bool)
  | server (e : ServerEvent Mat)
  | exit

/-- `FaceDataBase::InitDb`. On a file that has the table `CREATE TABLE` fails, which is only
logged. -/
def initDb : Option TbUser → TbUser
  | none => {}
  | some table => table

/-- The server once `main` has come to its window. `exec` is the outcome of the `SELECT` of
`LoadToCache`. -/
def startServer (file : Option TbUser) (exec : Bool) : ServerState V where
  db := ({ tbUser := initDb file } : FaceDataBase).loadToCache exec
  tableModel := select (initDb file)

/-- One step. -/
def sessionStep : Installation V → SessionEvent Mat → Option (Installation V)
  | .stopped file, .start exec => some (.running (startServer V file exec))
  | .running server, .server e => (serverStep V observers server e).map .running
  | .running server, .exit => some (.stopped (some server.db.tbUser))
  | .stopped _, .server _ => none
  | .stopped _, .exit => none
  | .running _, .start _ => none

/-! ## What the operations change -/

/-- `LoadToCache`. -/
def reloadChanges (exec : Bool) : List (Change User) := if exec then [.copied] else []

/-- `AddUser`. -/
def addUserChanges {table : TbUser} (exec : Option { id : Int // table.Fresh id })
    (nickName email : String) (faceImg : QImage) : List (Change User) :=
  match exec with
  | some id => [.added ⟨id.1, nickName, email, V.saveJpeg faceImg⟩]
  | none => []

/-- `RegisterFace(frame, user)`. -/
def registrationChanges (db : FaceDataBase) (exec : Option { id : Int // db.tbUser.Fresh id })
    (select : Bool) (frame : Mat) (user : User) : List (Change User) :=
  match V.detectFaces frame with
  | [] => []
  | _ :: _ =>
      match recognizeFaceFromDb V observers db.users frame with
      | .error _ => []
      | .ok found =>
          if found.id = -1 then
            addUserChanges V exec user.nickName user.email (V.matToQimage frame) ++
              reloadChanges select
          else []

/-- The users the page shows at the places. -/
def shownUsers (model : TableModel) (rows : List Nat) : List User :=
  rows.filterMap fun row => (model[row]?.join).map UserRow.toUser

/-- An operation of the server. -/
def serverChanges (s : ServerState V) : ServerEvent Mat → List (Change User)
  | .registerUser frame user exec select =>
      match freshExec s.db.tbUser exec with
      | some exec => registrationChanges V observers s.db exec select frame user
      | none => []
  | .loadToCache exec => reloadChanges exec
  | .deleteSelected selectedIndexes =>
      (shownUsers s.tableModel (sortedRows selectedIndexes)).map .removed
  | .refresh => []
  | .recognizeFaceFromDb _ => []
  | .rpcRegister _ _ => []
  | .rpcRecognizeFace _ => []

/-- A step. -/
def sessionChanges : Installation V → SessionEvent Mat → List (Change User)
  | .running server, .server e => serverChanges V observers server e
  | .stopped _, .server _ => []
  | _, .start exec => reloadChanges exec
  | _, .exit => [.dropped]

/-- All changes since the program was installed. -/
def history (es : List (SessionEvent Mat)) : List (Change User) :=
  outputs (sessionStep V observers) (sessionChanges V observers) (.stopped none) es

/-! ## The table and the cache as a store and its copy -/

/-- The rows are the records of a store, and the users cached those of its copy, with their ids as
`int`. -/
structure Mirrors (tbUser : TbUser) (users : List User) (r : Replica User) : Prop where
  store : tbUser.rows.map UserRow.toUser = r.store
  copy : users = r.copy.map User.narrowed

namespace Installation

variable {V}

def tbUser : Installation V → TbUser
  | .stopped file => initDb file
  | .running server => server.db.tbUser

def users : Installation V → List User
  | .stopped _ => []
  | .running server => server.db.users

/-- The page of a running server shows rows of the table. -/
def ShowsRows : Installation V → Prop
  | .stopped _ => True
  | .running server => Server.ShowsRows server

end Installation

section Operations

variable {V observers} {db : FaceDataBase}

theorem mirrors_loadToCache {r : Replica User} (h : Mirrors db.tbUser db.users r) (exec : Bool) :
    Mirrors (db.loadToCache exec).tbUser (db.loadToCache exec).users
      (r.applyAll (reloadChanges exec)) := by
  cases exec with
  | false => exact h
  | true =>
      refine ⟨h.store, ?_⟩
      -- a row is cached as the user it stands for, with the id narrowed
      rw [FaceDataBase.loadToCache_users]
      show _ = r.store.map User.narrowed
      rw [← h.store, List.map_map]
      rfl

theorem mirrors_addUser {r : Replica User} (h : Mirrors db.tbUser db.users r)
    (exec : Option { id : Int // db.tbUser.Fresh id }) (nickName email : String)
    (faceImg : QImage) :
    Mirrors (db.addUser V exec nickName email faceImg).2.tbUser
      (db.addUser V exec nickName email faceImg).2.users
      (r.applyAll (addUserChanges V exec nickName email faceImg)) := by
  cases exec with
  | none => exact h
  | some id =>
      refine ⟨?_, h.copy⟩
      rw [FaceDataBase.addUser_rows, List.map_append, h.store]
      rfl

/-- `RegisterFace(frame, user)` changes nothing, or inserts and reloads. An exception leaves the
database as it was. -/
theorem registrationChanges_cases (exec : Option { id : Int // db.tbUser.Fresh id }) (select : Bool)
    (frame : Mat) (user : User) :
    (registrationChanges V observers db exec select frame user = [] ∧
        ∀ result, registerUser V observers db exec select frame user = .ok result →
          result.store = db) ∨
      registrationChanges V observers db exec select frame user =
          addUserChanges V exec user.nickName user.email (V.matToQimage frame) ++
            reloadChanges select ∧
        ∃ result, registerUser V observers db exec select frame user = .ok result ∧
          result.store = (db.addUser V exec user.nickName user.email
            (V.matToQimage frame)).2.loadToCache select := by
  rw [registerUser, registrationChanges]
  cases V.detectFaces frame with
  | nil =>
      refine Or.inl ⟨rfl, ?_⟩
      intro result hr
      cases hr
      rfl
  | cons face rest =>
      cases recognizeFaceFromDb V observers db.users frame with
      | error err =>
          refine Or.inl ⟨rfl, ?_⟩
          intro result hr
          cases hr
      | ok found =>
          by_cases hid : found.id = -1
          · refine Or.inr ⟨if_pos hid, _, rfl, ?_⟩
            show (registerUserInsert V observers db exec select frame user found.id).store = _
            rw [registerUserInsert, if_pos hid]
          · refine Or.inl ⟨if_neg hid, ?_⟩
            intro result hr
            cases hr
            show (registerUserInsert V observers db exec select frame user found.id).store = _
            rw [registerUserInsert, if_neg hid]

/-- The server after `RegisterFace(frame, user)`. -/
theorem serverStep_registerUser {s t : ServerState V} {frame : Mat} {user : User}
    {exec : Option Int} {select : Bool}
    (ht : serverStep V observers s (.registerUser frame user exec select) = some t) :
    ∃ fresh, freshExec s.db.tbUser exec = some fresh ∧
      (registrationChanges V observers s.db fresh select frame user = [] ∧ t.db = s.db ∨
        registrationChanges V observers s.db fresh select frame user =
            addUserChanges V fresh user.nickName user.email (V.matToQimage frame) ++
              reloadChanges select ∧
          t.db = (s.db.addUser V fresh user.nickName user.email
            (V.matToQimage frame)).2.loadToCache select) := by
  obtain ⟨fresh, hfresh, rfl⟩ := Option.map_eq_some_iff.1 ht
  refine ⟨fresh, hfresh, ?_⟩
  rcases registrationChanges_cases fresh select frame user with
    ⟨hnone, hstore⟩ | ⟨hchanges, result, hr, hstore⟩
  · refine Or.inl ⟨hnone, ?_⟩
    split
    · next result hr => exact hstore result hr
    · rfl
  · refine Or.inr ⟨hchanges, ?_⟩
    rw [hr]
    exact hstore

theorem toUser_injective {row row' : UserRow} (h : row.toUser = row'.toUser) : row = row' := by
  cases row
  cases row'
  simpa [UserRow.toUser] using h

/-- Deleting by key takes out the one row the key stands for. -/
theorem delete_toUser {table : TbUser} {r : UserRow}
    (h : ∀ x ∈ table.rows, x.userId = r.userId → x = r) :
    (table.delete r.userId).rows.map UserRow.toUser =
      (table.rows.map UserRow.toUser).filter fun u => decide (u ≠ r.toUser) := by
  rw [TbUser.delete_rows, List.filter_map]
  congr 1
  apply List.filter_congr
  intro x hx
  apply decide_eq_decide.2
  constructor
  · exact fun hne hsame => hne (congrArg UserRow.userId (toUser_injective hsame))
  · exact fun hne hsame => hne (congrArg UserRow.toUser (h x hx hsame))

theorem shownUsers_set {model : TableModel} {row : Nat} {rows : List Nat} (h : row ∉ rows) :
    shownUsers (model.set row none) rows = shownUsers model rows := by
  apply List.filterMap_congr
  intro i hi
  have hne : row ≠ i := by
    rintro rfl
    exact h hi
  rw [List.getElem?_set_ne hne]

/-- Removing the rows at different places removes the users shown there. -/
theorem replica_foldl_removeRow {rows : List Nat} {model : TableModel} {table : TbUser}
    (users : List User) (hrows : rows.Nodup)
    (h : ∀ x ∈ table.rows, ∀ r, some r ∈ model → x.userId = r.userId → x = r) :
    Replica.mk ((rows.foldl removeRow (model, table)).2.rows.map UserRow.toUser) users =
      (Replica.mk (table.rows.map UserRow.toUser) users).applyAll
        ((shownUsers model rows).map .removed) := by
  induction rows generalizing model table with
  | nil => rfl
  | cons row rows ih =>
      obtain ⟨hrow, hrest⟩ := List.nodup_cons.1 hrows
      rw [List.foldl_cons]
      cases hcell : model[row]?.join with
      | none =>
          have hstep : removeRow (model, table) row = (model, table) := by
            simp only [removeRow]
            split
            · next r hr =>
                rw [hr] at hcell
                cases hcell
            · rfl
          rw [hstep, ih hrest h, shownUsers, shownUsers, List.filterMap_cons_none]
          rw [hcell]
          rfl
      | some r =>
          have hshown : model[row]? = some (some r) := Option.join_eq_some_iff.1 hcell
          have hmem : some r ∈ model := List.mem_of_getElem? hshown
          have hstep : removeRow (model, table) row = (model.set row none, table.delete r.userId) := by
            simp only [removeRow, hshown]
          have hkept : ∀ x ∈ (table.delete r.userId).rows, ∀ r', some r' ∈ model.set row none →
              x.userId = r'.userId → x = r' := by
            intro x hx r' hr'
            rcases List.mem_or_eq_of_mem_set hr' with hr' | hr'
            · exact h x (List.mem_of_mem_filter hx) r' hr'
            · cases hr'
          have husers : shownUsers model (row :: rows) = r.toUser :: shownUsers model rows := by
            rw [shownUsers, List.filterMap_cons_some]
            · rfl
            · rw [hcell]
              rfl
          rw [hstep, ih hrest hkept, shownUsers_set hrow, husers,
            delete_toUser fun x hx => h x hx r hmem]
          rfl

/-- The delete handler removes the users shown in the selected rows. -/
theorem mirrors_deleteSelected {s : ServerState V} {r : Replica User} (hshows : ShowsRows s)
    (h : Mirrors s.db.tbUser s.db.users r) (selectedIndexes : List (Nat × Nat)) :
    Mirrors (deleteSelected selectedIndexes (s.tableModel, s.db.tbUser)).2 s.db.users
      (r.applyAll ((shownUsers s.tableModel (sortedRows selectedIndexes)).map .removed)) := by
  have hremoved : Replica.mk ((deleteSelected selectedIndexes (s.tableModel, s.db.tbUser)).2.rows.map
      UserRow.toUser) r.copy = (Replica.mk (s.db.tbUser.rows.map UserRow.toUser) r.copy).applyAll
        ((shownUsers s.tableModel (sortedRows selectedIndexes)).map .removed) := by
    apply replica_foldl_removeRow r.copy
    · exact (sortedRows_descending selectedIndexes).imp fun hgt => Nat.ne_of_gt hgt
    · -- the page shows rows of the table, and these have distinct keys
      intro x hx row hrow hid
      exact List.inj_on_of_nodup_map s.db.tbUser.nodup hx (hshows row hrow) hid
  rw [h.store] at hremoved
  refine ⟨congrArg Replica.store hremoved, ?_⟩
  have hcopy := congrArg (fun r => r.copy.map User.narrowed) hremoved
  rw [h.copy]
  exact hcopy

end Operations

section Steps

variable {V observers} {s t : ServerState V} {e : ServerEvent Mat}

/-- What an operation does to the table and the cache is what its changes do to a store and a
copy. -/
theorem mirrors_serverStep {r : Replica User} (hshows : ShowsRows s)
    (h : Mirrors s.db.tbUser s.db.users r) (ht : serverStep V observers s e = some t) :
    Mirrors t.db.tbUser t.db.users (r.applyAll (serverChanges V observers s e)) := by
  cases e with
  | registerUser frame user exec select =>
      obtain ⟨fresh, hfresh, hcases⟩ := serverStep_registerUser ht
      simp only [serverChanges, hfresh]
      rcases hcases with ⟨hnone, hdb⟩ | ⟨hchanges, hdb⟩
      · rw [hnone, hdb]
        exact h
      · rw [hchanges, hdb, Replica.applyAll_append]
        exact mirrors_loadToCache (mirrors_addUser h fresh _ _ _) select
  | loadToCache exec =>
      cases ht
      exact mirrors_loadToCache h exec
  | deleteSelected selectedIndexes =>
      cases ht
      exact mirrors_deleteSelected hshows h selectedIndexes
  | refresh =>
      cases ht
      exact h
  | recognizeFaceFromDb img =>
      cases ht
      exact h
  | rpcRegister request answer =>
      obtain ⟨-, rfl⟩ := serverStep_rpcRegister ht
      exact h
  | rpcRecognizeFace request =>
      cases ht
      exact h

theorem addedIn_reloadChanges (exec : Bool) : addedIn (reloadChanges exec) = [] := by
  cases exec with
  | true => rfl
  | false => rfl

theorem addedIn_removed (users : List User) : addedIn (users.map Change.removed) = [] := by
  apply List.filterMap_eq_nil_iff.2
  intro c hc
  obtain ⟨u, -, rfl⟩ := List.mem_map.1 hc
  rfl

/-- An operation adds nobody and hands out no id, or adds one user under an id never handed out
before. -/
theorem added_serverStep (ht : serverStep V observers s e = some t) :
    addedIn (serverChanges V observers s e) = [] ∧ t.db.tbUser.issued = s.db.tbUser.issued ∨
      ∃ u, addedIn (serverChanges V observers s e) = [u] ∧ u.id ∉ s.db.tbUser.issued ∧
        t.db.tbUser.issued = u.id :: s.db.tbUser.issued := by
  cases e with
  | registerUser frame user exec select =>
      obtain ⟨fresh, hfresh, hcases⟩ := serverStep_registerUser ht
      simp only [serverChanges, hfresh]
      rcases hcases with ⟨hnone, hdb⟩ | ⟨hchanges, hdb⟩
      · rw [hnone, hdb]
        exact Or.inl ⟨rfl, rfl⟩
      · rw [hchanges, hdb, addedIn_append, addedIn_reloadChanges, List.append_nil,
          FaceDataBase.loadToCache_tbUser]
        cases fresh with
        | none => exact Or.inl ⟨rfl, rfl⟩
        | some id => exact Or.inr ⟨_, rfl, id.2.2, rfl⟩
  | loadToCache exec =>
      cases ht
      refine Or.inl ⟨addedIn_reloadChanges exec, ?_⟩
      rw [FaceDataBase.loadToCache_tbUser]
  | deleteSelected selectedIndexes =>
      cases ht
      exact Or.inl ⟨addedIn_removed _, foldl_removeRow_issued _ _⟩
  | refresh =>
      cases ht
      exact Or.inl ⟨rfl, rfl⟩
  | recognizeFaceFromDb img =>
      cases ht
      exact Or.inl ⟨rfl, rfl⟩
  | rpcRegister request answer =>
      obtain ⟨-, rfl⟩ := serverStep_rpcRegister ht
      exact Or.inl ⟨rfl, rfl⟩
  | rpcRecognizeFace request =>
      cases ht
      exact Or.inl ⟨rfl, rfl⟩

end Steps

/-! ## The invariant -/

/-- The installation is what its history says, and the ids handed out are those of the users
added. -/
structure RemembersInvariant (out : List (Change User)) (s : Installation V) : Prop where
  mirrors : Mirrors s.tbUser s.users (replay out)
  shows : s.ShowsRows
  issued : s.tbUser.issued = ((addedIn out).map User.id).reverse
  distinct : ((addedIn out).map User.id).Nodup

section Invariant

variable {V observers} {out : List (Change User)} {s t : Installation V} {e : SessionEvent Mat}

theorem remembersInvariant_init : RemembersInvariant V [] (.stopped none) :=
  ⟨⟨rfl, rfl⟩, trivial, rfl, List.nodup_nil⟩

/-- A step that adds nobody. -/
theorem RemembersInvariant.of_addedIn_nil {more : List (Change User)}
    (hinv : RemembersInvariant V out s) (hnone : addedIn more = [])
    (hmirrors : Mirrors t.tbUser t.users ((replay out).applyAll more)) (hshows : t.ShowsRows)
    (hissued : t.tbUser.issued = s.tbUser.issued) : RemembersInvariant V (out ++ more) t := by
  have hadded : addedIn (out ++ more) = addedIn out := by
    rw [addedIn_append, hnone, List.append_nil]
  refine ⟨?_, hshows, ?_, ?_⟩
  · rw [replay_append]
    exact hmirrors
  · rw [hissued, hinv.issued, hadded]
  · rw [hadded]
    exact hinv.distinct

theorem remembersInvariant_server {server server' : ServerState V} {op : ServerEvent Mat}
    (hinv : RemembersInvariant V out (.running server))
    (ht : serverStep V observers server op = some server') :
    RemembersInvariant V (out ++ serverChanges V observers server op) (.running server') := by
  have hmirrors := mirrors_serverStep hinv.shows hinv.mirrors ht
  have hshows : ShowsRows server' := showsRows_step hinv.shows ht
  rcases added_serverStep ht with ⟨hnone, hissued⟩ | ⟨u, hone, hnew, hissued⟩
  · exact hinv.of_addedIn_nil hnone hmirrors hshows hissued
  · have hold : server.db.tbUser.issued = _ := hinv.issued
    have hadded : (addedIn (out ++ serverChanges V observers server op)).map User.id =
        (addedIn out).map User.id ++ [u.id] := by
      rw [addedIn_append, hone, List.map_append, List.map_singleton]
    refine ⟨?_, hshows, ?_, ?_⟩
    · rw [replay_append]
      exact hmirrors
    · rw [hadded, List.reverse_append, ← hold]
      exact hissued
    · rw [hadded]
      rw [hold, List.mem_reverse] at hnew
      exact List.nodup_append.2 ⟨hinv.distinct, List.nodup_singleton _, fun a ha b hb => by
        rw [List.mem_singleton.1 hb]
        rintro rfl
        exact hnew ha⟩

theorem remembersInvariant_step (hinv : RemembersInvariant V out s)
    (ht : sessionStep V observers s e = some t) :
    RemembersInvariant V (out ++ sessionChanges V observers s e) t := by
  cases s with
  | stopped file =>
      cases e with
      | start exec =>
          cases ht
          apply hinv.of_addedIn_nil (addedIn_reloadChanges exec)
          · let db : FaceDataBase := { tbUser := initDb file }
            have hstart : Mirrors db.tbUser db.users (replay out) := hinv.mirrors
            exact mirrors_loadToCache hstart exec
          · intro row hrow
            show row ∈ (FaceDataBase.loadToCache { tbUser := initDb file } exec).tbUser.rows
            rw [FaceDataBase.loadToCache_tbUser]
            exact mem_of_mem_select hrow
          · exact congrArg TbUser.issued (FaceDataBase.loadToCache_tbUser _ exec)
      | server op => cases ht
      | exit => cases ht
  | running server =>
      cases e with
      | start exec => cases ht
      | server op =>
          obtain ⟨server', hserver, rfl⟩ := Option.map_eq_some_iff.1 ht
          exact remembersInvariant_server hinv hserver
      | exit =>
          cases ht
          exact hinv.of_addedIn_nil rfl ⟨hinv.mirrors.store, rfl⟩ trivial rfl

theorem remembersInvariant_run {es : List (SessionEvent Mat)}
    (h : Run (sessionStep V observers) (.stopped none) es s) :
    RemembersInvariant V (history V observers es) s := by
  apply h.outputs_invariant (I := fun _ out s => RemembersInvariant V out s)
  · exact remembersInvariant_init
  · intro es out s e t hinv ht
    exact remembersInvariant_step hinv ht

end Invariant

/-! ## The table, the cache and recognition -/

/-- Whoever is in the copy was added. -/
theorem id_mem_issued {out : List (Change User)} {s : Installation V}
    (hinv : RemembersInvariant V out s) {u : User} (hu : u ∈ (replay out).copy) :
    u.id ∈ s.tbUser.issued := by
  obtain ⟨before, between, after, hsplit, -⟩ := mem_copy_replay.1 hu
  rw [hinv.issued, List.mem_reverse]
  apply List.mem_map_of_mem
  rw [hsplit]
  simp [addedIn]

/-- Users whose ids fit an `int` are copied as they are. -/
theorem users_eq_copy {out : List (Change User)} {s : Installation V}
    (hinv : RemembersInvariant V out s) (hids : ∀ id ∈ s.tbUser.issued, id < 2 ^ 31) :
    s.users = (replay out).copy := by
  rw [hinv.mirrors.copy]
  conv_rhs => rw [← List.map_id (replay out).copy]
  apply List.map_congr_left
  intro u hu
  have hmem := id_mem_issued V hinv hu
  show { u with id := toInt32 u.id } = u
  rw [toInt32_of_lt (Int.le_of_lt (s.tbUser.issued_pos _ hmem)) (hids _ hmem)]

/-- **The table and its cache over all sessions.** After any sessions, each ended at any moment
between two operations, the users of the table are those added and not removed since, in the order
in which they were added, and the users cached are what the table held when it was last loaded into
the cache of this session, their ids narrowed to `int`: the same users, if all ids fit. No id is ever
given to two users. -/
theorem installation_remembers {es : List (SessionEvent Mat)} {s : Installation V}
    (h : Run (sessionStep V observers) (.stopped none) es s) :
    s.tbUser.rows.map UserRow.toUser = (replay (history V observers es)).store ∧
      s.users = (replay (history V observers es)).copy.map User.narrowed ∧
      ((∀ id ∈ s.tbUser.issued, id < 2 ^ 31) → s.users = (replay (history V observers es)).copy) ∧
      ((addedIn (history V observers es)).map User.id).Nodup := by
  have hinv := remembersInvariant_run h
  exact ⟨hinv.mirrors.store, hinv.mirrors.copy, users_eq_copy V hinv, hinv.distinct⟩

/-- The user was stored, in whichever session, and was not deleted before the cache of this session
was last loaded. -/
def Remembered (changes : List (Change User)) (u : User) : Prop :=
  ∃ before between after, changes = before ++ .added u :: between ++ .copied :: after ∧
    .removed u ∉ between ∧ CopyKept after

/-- The image matches the user's. -/
def Matches (img : Mat) (u : User) : Prop :=
  ∃ similarity, compareUser V img u = .ok similarity ∧ compareThreshold ≤ similarity

/-- **Recognition over all sessions.** In a session after any others, while ids fit an `int`, a
recognition that ends normally finds somebody exactly if the image matches a remembered user, and
whom it finds is remembered. -/
theorem recognised_remembered {es : List (SessionEvent Mat)} {server : ServerState V}
    (h : Run (sessionStep V observers) (.stopped none) es (.running server))
    (hids : ∀ id ∈ server.db.tbUser.issued, id < 2 ^ 31) {img : Mat} {found : Recognition Mat}
    (hfound : recognizeFaceFromDb V observers server.db.users img = .ok found) :
    (found.id ≠ -1 ↔ ∃ u, Remembered (history V observers es) u ∧ Matches V img u) ∧
      ∀ u, found.info = some u → found.id = u.id ∧ Remembered (history V observers es) u := by
  have hinv := remembersInvariant_run h
  have hcopy : server.db.users = (replay (history V observers es)).copy :=
    users_eq_copy V hinv hids
  have hmem : ∀ u, u ∈ server.db.users ↔ Remembered (history V observers es) u := by
    intro u
    rw [hcopy]
    exact mem_copy_replay
  rcases recognizeFaceFromDb_cases hfound with ⟨hnot, rfl⟩ | ⟨u, hu, hknown, rfl⟩
  · refine ⟨iff_of_false (fun hne => hne rfl) ?_, fun u hinfo => by cases hinfo⟩
    rintro ⟨u, hremembered, hmatches⟩
    exact hnot ⟨u, (hmem u).2 hremembered, hmatches⟩
  · refine ⟨iff_of_true ?_ ?_, ?_⟩
    · -- ids handed out are positive
      have hissued : u.id ∈ server.db.tbUser.issued :=
        id_mem_issued V hinv (by rw [← hcopy]; exact hu)
      have hpos := server.db.tbUser.issued_pos u.id hissued
      show u.id ≠ -1
      omega
    · obtain ⟨v, hv, hmatches⟩ := hknown
      exact ⟨v, (hmem v).1 hv, hmatches⟩
    · intro v hinfo
      obtain rfl : u = v := Option.some.inj hinfo
      exact ⟨rfl, (hmem u).1 hu⟩

/-- Ann is registered in the first session and recognised in the second, where Bob is registered and
Ann deleted; the third knows Bob only. -/
def threeSessions : List (SessionEvent Nat) :=
  [.start true, .server (.registerUser 2 { nickName := "Ann" } (some 1) true), .exit, .start true,
    .server (.registerUser 3 { nickName := "Bob" } (some 2) true),
    .server (.deleteSelected [(0, 1)]), .exit, .start true]

/-- Ann and Bob as they are stored. -/
def annStored : User := { id := 1, nickName := "Ann", faceImgBytes := [2] }

def bobStored : User := { id := 2, nickName := "Bob", faceImgBytes := [3] }

theorem installation_remembers_three :
    ∃ s, Run (sessionStep sampleVision [7]) (.stopped none) threeSessions s ∧
      s.users = [bobStored] ∧ s.users = (replay (history sampleVision [7] threeSessions)).copy ∧
      ((addedIn (history sampleVision [7] threeSessions)).map User.id).Nodup := by
  have hcomputed : (exec (sessionStep sampleVision [7]) (.stopped none) threeSessions).map
      (fun s => (s.users, s.tbUser.issued)) = some ([bobStored], [2, 1]) := by decide +kernel
  obtain ⟨s, hs, hboth⟩ := Option.map_eq_some_iff.1 hcomputed
  have hissued : s.tbUser.issued = [2, 1] := congrArg Prod.snd hboth
  have hrun := run_iff_exec.2 hs
  obtain ⟨-, -, hcopy, hdistinct⟩ := installation_remembers _ _ hrun
  exact ⟨s, hrun, congrArg Prod.fst hboth, hcopy (by rw [hissued]; decide), hdistinct⟩

theorem recognised_remembered_ann :
    ∃ server : ServerState sampleVision,
      Run (sessionStep sampleVision [7]) (.stopped none) (threeSessions.take 4) (.running server) ∧
      ∃ found, recognizeFaceFromDb sampleVision [7] server.db.users 2 = .ok found ∧
        found.info = some annStored ∧
        Remembered (history sampleVision [7] (threeSessions.take 4)) annStored := by
  have hcomputed : (exec (sessionStep sampleVision [7]) (.stopped none) (threeSessions.take 4)).map
      (fun s => (s.users, s.tbUser.issued)) = some ([annStored], [1]) := by decide +kernel
  obtain ⟨s, hs, hboth⟩ := Option.map_eq_some_iff.1 hcomputed
  have hrun := run_iff_exec.2 hs
  cases s with
  | stopped file => cases congrArg Prod.fst hboth
  | running server =>
      have husers : server.db.users = [annStored] := congrArg Prod.fst hboth
      have hissued : server.db.tbUser.issued = [1] := congrArg Prod.snd hboth
      have hinfo : (recognizeFaceFromDb sampleVision [7] [annStored] 2).toOption.map
          Recognition.info = some (some annStored) := by decide +kernel
      rw [← husers] at hinfo
      cases hfound : recognizeFaceFromDb sampleVision [7] server.db.users 2 with
      | error err =>
          rw [hfound] at hinfo
          cases hinfo
      | ok found =>
          rw [hfound] at hinfo
          have hann : found.info = some annStored := Option.some.inj hinfo
          exact ⟨server, hrun, found, hfound, hann,
            ((recognised_remembered _ _ hrun (by rw [hissued]; decide) hfound).2 annStored hann).2⟩

end ArmFaceID.Server
