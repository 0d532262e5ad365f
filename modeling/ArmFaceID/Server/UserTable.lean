import ArmFaceID.Interface
import Mathlib.Data.List.Nodup

/-!
# The user table

`TbUser` is the table `tb_user` of `server/face_database.cpp` together with the ids SQLite has handed
out so far; its fields say that ids are positive and never reused, as `AUTOINCREMENT` promises. Rows
are kept in the order in which they were inserted. SQLite counts ids in 64 bits, the server keeps them
as `int`: a user has the id of its row only while ids stay below `2 ^ 31`. The column `face_feature`,
which no statement of the source reads or writes, is left out.
-/

set_option autoImplicit false

namespace ArmFaceID.Server

/-- `data::User`. -/
structure User where
  id : Int := 0
  nickName : String := ""
  email : String := ""
  faceImgBytes : Bytes := []
  deriving DecidableEq

/-- A row of `tb_user`. -/
structure UserRow where
  userId : Int
  nickName : String
  email : String
  faceImg : Bytes
  deriving DecidableEq

/-- The user a row stands for, under the id of the row. -/
def UserRow.toUser (row : UserRow) : User :=
  { id := row.userId, nickName := row.nickName, email := row.email, faceImgBytes := row.faceImg }

/-- The id becomes an `int`. -/
def User.narrowed (u : User) : User := { u with id := toInt32 u.id }

/-- The user `LoadToCache` builds from a row of `SELECT user_id, nick_name, email, face_img`. -/
def UserRow.cached (row : UserRow) : User := row.toUser.narrowed

theorem UserRow.cached_eq (row : UserRow) :
    row.cached = ⟨toInt32 row.userId, row.nickName, row.email, row.faceImg⟩ := rfl

/-! ## The table -/

/-- `tb_user` and the ids handed out so far. -/
structure TbUser where
  rows : List UserRow := []
  issued : List Int := []
  nodup : (rows.map UserRow.userId).Nodup := by decide
  issued_of_mem : ∀ row ∈ rows, row.userId ∈ issued := by decide
  issued_pos : ∀ id ∈ issued, 0 < id := by decide

namespace TbUser

/-- Ids an insertion may get. -/
def Fresh (t : TbUser) (id : Int) : Prop := 0 < id ∧ id ∉ t.issued

instance (t : TbUser) (id : Int) : Decidable (t.Fresh id) :=
  inferInstanceAs (Decidable (_ ∧ _))

/-- The table after `INSERT INTO tb_user` of a row that gets the id `id`. -/
def insert (t : TbUser) (id : Int) (h : t.Fresh id) (nickName email : String)
    (faceImg : Bytes) : TbUser where
  rows := t.rows ++ [⟨id, nickName, email, faceImg⟩]
  issued := id :: t.issued
  nodup := by
    rw [List.map_append, List.nodup_append]
    refine ⟨t.nodup, List.nodup_singleton _, ?_⟩
    intro a ha b hb
    obtain ⟨row, hrow, rfl⟩ := List.mem_map.1 ha
    rw [List.map_singleton, List.mem_singleton] at hb
    subst hb
    intro heq
    have hissued := t.issued_of_mem row hrow
    -- the id of a row is not handed out again
    rw [heq] at hissued
    exact h.2 hissued
  issued_of_mem := by
    intro row hrow
    rcases List.mem_append.1 hrow with hrow | hrow
    · exact List.mem_cons_of_mem _ (t.issued_of_mem row hrow)
    · rw [List.mem_singleton.1 hrow]
      exact List.mem_cons_self
  issued_pos := by
    intro i hi
    rcases List.mem_cons.1 hi with rfl | hi
    · exact h.1
    · exact t.issued_pos i hi

/-- The table after `DELETE FROM tb_user WHERE user_id = id`. -/
def delete (t : TbUser) (id : Int) : TbUser where
  rows := t.rows.filter fun row => decide (row.userId ≠ id)
  issued := t.issued
  nodup := t.nodup.sublist (List.filter_sublist.map _)
  issued_of_mem row hrow := t.issued_of_mem row (List.mem_of_mem_filter hrow)
  issued_pos := t.issued_pos

/-- The id was handed out and its row is gone. -/
def Deleted (t : TbUser) (id : Int) : Prop := id ∈ t.issued ∧ ∀ row ∈ t.rows, row.userId ≠ id

instance (t : TbUser) (id : Int) : Decidable (t.Deleted id) :=
  inferInstanceAs (Decidable (_ ∧ _))

@[simp] theorem insert_rows (t : TbUser) (id : Int) (h : t.Fresh id) (nickName email : String)
    (faceImg : Bytes) :
    (t.insert id h nickName email faceImg).rows = t.rows ++ [⟨id, nickName, email, faceImg⟩] := rfl

@[simp] theorem delete_rows (t : TbUser) (id : Int) :
    (t.delete id).rows = t.rows.filter fun row => decide (row.userId ≠ id) := rfl

theorem userId_pos (t : TbUser) {row : UserRow} (h : row ∈ t.rows) : 0 < row.userId :=
  t.issued_pos _ (t.issued_of_mem row h)

theorem not_deleted_of_mem (t : TbUser) {row : UserRow} (h : row ∈ t.rows) :
    ¬ t.Deleted row.userId := fun hdel => hdel.2 row h rfl

/-- The ids of the rows fit an `int`. -/
def IdsFit (t : TbUser) : Prop := ∀ row ∈ t.rows, row.userId < 2 ^ 31

instance (t : TbUser) : Decidable t.IdsFit :=
  inferInstanceAs (Decidable (∀ row ∈ t.rows, row.userId < 2 ^ 31))

theorem cached_eq_toUser (t : TbUser) {row : UserRow} (h : row ∈ t.rows)
    (hlt : row.userId < 2 ^ 31) : row.cached = row.toUser := by
  rw [UserRow.cached_eq, toInt32_of_lt (Int.le_of_lt (t.userId_pos h)) hlt]
  rfl

/-- Rows whose ids fit an `int` are cached as they are. -/
theorem map_cached (t : TbUser) (h : t.IdsFit) :
    t.rows.map UserRow.cached = t.rows.map UserRow.toUser :=
  List.map_congr_left fun row hrow => t.cached_eq_toUser hrow (h row hrow)

theorem not_deleted_neg_one (t : TbUser) : ¬ t.Deleted (-1) := by
  intro h
  have := t.issued_pos _ h.1
  omega

end TbUser

/-- A table with one user, for runs on fixed inputs. -/
def oneRow : TbUser := { rows := [⟨1, "Ann", "", [2]⟩], issued := [1] }

end ArmFaceID.Server
