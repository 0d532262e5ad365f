import ArmFaceID.Server.FaceEngine
import ArmFaceID.Server.SqlQuery

/-!
# The database object

`FaceDataBase` of `server/face_database.cpp`: the table and the cache `users_`. Whether a statement
succeeds, which id an insertion gets and in which order a `SELECT` returns the rows are arguments of
the operations.
-/

set_option autoImplicit false

namespace ArmFaceID.Server

/-- `FaceDataBase`: the table behind it, the cache `users_` and `features_vec_`. -/
structure FaceDataBase where
  tbUser : TbUser := {}
  users : List User := []
  featuresVec : List (List ℚ) := []

namespace FaceDataBase

/-- `FaceDataBase::AddUser`. `exec` is the outcome of the `INSERT`: the id given to the row, or
`none` when it fails. -/
def addUser {Mat QImage : Type} (V : Vision Mat QImage) (db : FaceDataBase)
    (exec : Option { id : Int // db.tbUser.Fresh id }) (nickName email : String)
    (faceImg : QImage) : Int × FaceDataBase :=
  match exec with
  | some id =>
      let row := insertedRow id.1 nickName email (V.saveJpeg faceImg)
      (addUserResult (some id.1),
        { db with tbUser := db.tbUser.insert id.1 id.2 row.nickName row.email row.faceImg })
  | none => (addUserResult none, db)

/-- `FaceDataBase::LoadToCache`. `selected` are the rows in the order the `SELECT` returns them,
`none` if it fails. -/
def loadSelected (db : FaceDataBase) (selected : Option (List UserRow)) : FaceDataBase :=
  { db with users := loadUsers db.users selected }

/-- `FaceDataBase::LoadToCache`, with the rows in the order of their insertion. `exec` says whether the
`SELECT` succeeds. -/
def loadToCache (db : FaceDataBase) (exec : Bool) : FaceDataBase :=
  db.loadSelected (if exec then some db.tbUser.rows else none)

/-- The cache holds exactly the rows of the table, under their own ids. -/
def Coherent (db : FaceDataBase) : Prop := db.users = db.tbUser.rows.map UserRow.toUser

instance (db : FaceDataBase) : Decidable db.Coherent :=
  inferInstanceAs (Decidable (_ = _))

@[simp] theorem loadToCache_users (db : FaceDataBase) :
    (db.loadToCache true).users = db.tbUser.rows.map UserRow.cached :=
  loadUsers_eq db.users db.tbUser.rows

@[simp] theorem loadToCache_tbUser (db : FaceDataBase) (exec : Bool) :
    (db.loadToCache exec).tbUser = db.tbUser := rfl

/-- The rows after an insertion: the new one comes last, and the values bound to the placeholders are
in their own columns. -/
@[simp] theorem addUser_rows {Mat QImage : Type} (V : Vision Mat QImage) (db : FaceDataBase)
    (id : { id : Int // db.tbUser.Fresh id }) (nickName email : String) (faceImg : QImage) :
    (db.addUser V (some id) nickName email faceImg).2.tbUser.rows =
      db.tbUser.rows ++ [⟨id.1, nickName, email, V.saveJpeg faceImg⟩] := rfl

/-- A reload restores the rows exactly if their ids fit an `int`. -/
theorem coherent_loadToCache_iff (db : FaceDataBase) :
    (db.loadToCache true).Coherent ↔ db.tbUser.IdsFit := by
  rw [Coherent, loadToCache_users, loadToCache_tbUser]
  constructor
  · intro h row hrow
    have hsame : row.cached = row.toUser := List.map_inj_left.1 h row hrow
    have hid : toInt32 row.userId = row.userId := congrArg User.id hsame
    rw [← hid]
    exact toInt32_lt row.userId
  · exact fun h => db.tbUser.map_cached h

end FaceDataBase

end ArmFaceID.Server
