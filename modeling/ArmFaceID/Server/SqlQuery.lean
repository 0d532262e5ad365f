import ArmFaceID.Server.UserTable

/-!
# The statements on `tb_user`, column by column

`server/face_database.cpp` with the columns its statements name and the positions it reads them
from. `AddUser` binds three placeholders; `LoadToCache` and both overloads of `GetUserById` read a
record by position. An id read from a record or returned by `lastInsertId` is narrowed to an `int`.

A string goes through `QString` and back unchanged. A value is read as the type its column holds.
-/

set_option autoImplicit false

namespace ArmFaceID.Server

/-- The columns of `tb_user` that statements name. -/
inductive Column where
  | userId
  | nickName
  | email
  | faceImg
  deriving DecidableEq

/-- `QVariant`; `invalid` is the value of a query that is not at a record. -/
inductive QVariant where
  | invalid
  | int (n : Int)
  | string (s : String)
  | byteArray (bytes : Bytes)

namespace QVariant

/-- `toInt()`. -/
def toInt : QVariant → Int
  | .int n => toInt32 n
  | _ => 0

/-- `toString().toStdString()`. -/
def toStdString : QVariant → String
  | .string s => s
  | _ => ""

/-- `toByteArray()`. -/
def toByteArray : QVariant → Bytes
  | .byteArray bytes => bytes
  | _ => []

end QVariant

/-- The value of a column in a row. -/
def UserRow.value (row : UserRow) : Column → QVariant
  | .userId => .int row.userId
  | .nickName => .string row.nickName
  | .email => .string row.email
  | .faceImg => .byteArray row.faceImg

/-! ## Queries -/

/-- `SELECT columns FROM tb_user`, with `WHERE user_id = ?` if an id is asked for. -/
structure SelectStatement where
  columns : List Column
  userId : Option Int := none

/-- `sql_select_tb_usr`. -/
def sqlSelectTbUsr : SelectStatement := { columns := [.userId, .nickName, .email, .faceImg] }

/-- The statement `GetUserById(id, res)` prepares. -/
def selectUserById (id : Int) : SelectStatement :=
  { columns := [.userId, .email, .nickName, .faceImg], userId := some id }

/-- The records a statement yields on rows. -/
def SelectStatement.records (s : SelectStatement) (rows : List UserRow) : List (List QVariant) :=
  (rows.filter fun row => s.userId.all fun id => decide (row.userId = id)).map fun row =>
    s.columns.map row.value

/-- `QSqlQuery`: what was prepared, the record it is at, and those to come. -/
structure QSqlQuery where
  prepared : Option SelectStatement := none
  current : Option (List QVariant) := none
  coming : List (List QVariant) := []

namespace QSqlQuery

/-- `prepare`, with the value bound. -/
def prepare (q : QSqlQuery) (s : SelectStatement) : QSqlQuery := { q with prepared := some s }

/-- `exec(query)` runs the text given, not the statement prepared. -/
def exec (q : QSqlQuery) (rows : List UserRow) (s : SelectStatement) : QSqlQuery :=
  { q with prepared := none, current := none, coming := s.records rows }

/-- `next()`. -/
def next (q : QSqlQuery) : Bool × QSqlQuery :=
  match q.coming with
  | [] => (false, { q with current := none })
  | record :: coming => (true, { q with current := some record, coming := coming })

/-- `value(i)`. -/
def value (q : QSqlQuery) (i : Nat) : QVariant :=
  (q.current.bind fun record => record[i]?).getD .invalid

end QSqlQuery

/-! ## The cache -/

/-- The body of the loop in `LoadToCache`. -/
def cachedUser (q : QSqlQuery) : User :=
  { id := (q.value 0).toInt, nickName := (q.value 1).toStdString, email := (q.value 2).toStdString,
    faceImgBytes := (q.value 3).toByteArray }

/-- `while (sql_query.next()) users_.push_back(...)`, over the records to come. -/
def fetchUsers (q : QSqlQuery) : List (List QVariant) → List User → List User
  | [], users => users
  | record :: coming, users =>
      fetchUsers q coming (users ++ [cachedUser { q with current := some record }])

/-- `users_` after `LoadToCache`; `selected` are the rows in the order the `SELECT` returns them,
`none` if it fails. -/
def loadUsers (users : List User) (selected : Option (List UserRow)) : List User :=
  match selected with
  | none => users
  | some rows =>
      let q := QSqlQuery.exec {} rows sqlSelectTbUsr
      fetchUsers q q.coming []

/-- `GetUserById(id)`: the first cached user with that id. The members of `User()` are zero and
empty. -/
def getUserById (users : List User) (id : Int) : User :=
  match users with
  | [] => {}
  | iter :: rest => if iter.id = id then iter else getUserById rest id

/-! ## Insertion -/

/-- An item of `VALUES (...)`. -/
inductive InsertValue where
  | null
  | placeholder (name : String)

/-- The `INSERT` of `AddUser`: columns and values side by side. -/
def insertUser : List (Column × InsertValue) :=
  List.zip [.userId, .nickName, .email, .faceImg]
    [.null, .placeholder ":nick_name", .placeholder ":email", .placeholder ":face_img"]

/-- What the statement puts into a column, with these values bound. -/
def insertedValue (bound : List (String × QVariant)) (column : Column) : QVariant :=
  match insertUser.lookup column with
  | some (.placeholder name) => (bound.lookup name).getD .invalid
  | _ => .invalid

/-- The row a successful `INSERT` of `AddUser` leaves, for the id SQLite gives it. -/
def insertedRow (id : Int) (nickName email : String) (imgBytes : Bytes) : UserRow :=
  let bound : List (String × QVariant) :=
    [(":nick_name", .string nickName), (":email", .string email),
      (":face_img", .byteArray imgBytes)]
  ⟨id, (insertedValue bound .nickName).toStdString, (insertedValue bound .email).toStdString,
    (insertedValue bound .faceImg).toByteArray⟩

/-- What `AddUser` returns: `lastInsertId().toInt()`, or `-1` when the `INSERT` fails. -/
def addUserResult (exec : Option Int) : Int :=
  match exec with
  | some id => (QVariant.int id).toInt
  | none => -1

section Specs

theorem records_sqlSelectTbUsr (rows : List UserRow) :
    sqlSelectTbUsr.records rows = rows.map fun row =>
      [.int row.userId, .string row.nickName, .string row.email, .byteArray row.faceImg] := by
  have hall : rows.filter (fun _ => true) = rows := List.filter_true rows
  show (rows.filter fun _ => true).map _ = _
  rw [hall]
  rfl

/-- The loop appends one user for each record. -/
theorem fetchUsers_eq (q : QSqlQuery) (coming : List (List QVariant)) (users : List User) :
    fetchUsers q coming users =
      users ++ coming.map fun record => cachedUser { q with current := some record } := by
  induction coming generalizing users with
  | nil => exact (List.append_nil users).symm
  | cons record coming ih =>
      rw [fetchUsers, ih, List.map_cons, List.append_assoc]
      rfl

/-- Loading gives each row as a user, with every column in its field. -/
theorem loadUsers_eq (users : List User) (rows : List UserRow) :
    loadUsers users (some rows) = rows.map UserRow.cached := by
  have hcoming : (QSqlQuery.exec {} rows sqlSelectTbUsr).coming = sqlSelectTbUsr.records rows := rfl
  rw [loadUsers, fetchUsers_eq, List.nil_append, hcoming, records_sqlSelectTbUsr, List.map_map]
  rfl

/-- On ids that fit an `int` these are the users of the rows. -/
theorem loadUsers_some (users : List User) {table : TbUser} (h : table.IdsFit)
    {rows : List UserRow} (hrows : ∀ row ∈ rows, row ∈ table.rows) :
    loadUsers users (some rows) = rows.map UserRow.toUser := by
  rw [loadUsers_eq]
  apply List.map_congr_left
  intro row hrow
  exact table.cached_eq_toUser (hrows row hrow) (h row (hrows row hrow))

/-- A cached id is found, when no two cached users share it. -/
theorem getUserById_of_mem {users : List User} (hnodup : (users.map User.id).Nodup) {u : User}
    (hu : u ∈ users) : getUserById users u.id = u := by
  induction users with
  | nil => cases hu
  | cons iter rest ih =>
      rw [List.map_cons, List.nodup_cons] at hnodup
      rcases List.mem_cons.1 hu with rfl | hrest
      · rw [getUserById, if_pos rfl]
      · have hne : iter.id ≠ u.id := fun heq =>
          hnodup.1 (heq ▸ List.mem_map_of_mem hrest)
        rw [getUserById, if_neg hne, ih hnodup.2 hrest]

/-- An answer has the id asked for, unless it is `User()`. -/
theorem getUserById_cases (users : List User) (id : Int) :
    (getUserById users id).id = id ∨ getUserById users id = {} := by
  induction users with
  | nil => exact Or.inr rfl
  | cons iter rest ih =>
      rw [getUserById]
      split
      · next h => exact Or.inl h
      · exact ih

end Specs

end ArmFaceID.Server
