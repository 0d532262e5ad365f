import ArmFaceID.Library.FreshKeys
import ArmFaceID.Server.CacheCoherence
import ArmFaceID.Server.Startup

/-!
# The users ever stored

The cache may lag behind the table: rows are deleted without a reload, a reload fails, or one is half
done. What it holds are still users that were stored once, with the data they were stored with, and
their ids, as long as they fit an `int`, stand for nobody else. `Holds known db` says so of the list
`known` of all rows stored so far; every operation keeps it, an insertion with one row more.
-/

set_option autoImplicit false

namespace ArmFaceID.Server

open ArmFaceID.Library

variable {Mat QImage : Type} {V : Vision Mat QImage} {observers : List Observer}

/-- The rows ever stored: those of the table and of the cached users are among them, and their ids
were handed out once each. -/
structure Holds (known : List UserRow) (db : FaceDataBase) : Prop where
  distinct : Unambiguous UserRow.userId known
  rows : ∀ row ∈ db.tbUser.rows, row ∈ known
  users : ∀ u ∈ db.users, u ∈ known.map UserRow.cached
  issued : ∀ row ∈ known, row.userId ∈ db.tbUser.issued

namespace Holds

variable {known : List UserRow} {db : FaceDataBase}

/-- A database over a table, with nothing cached yet. -/
theorem start (table : TbUser) {db : FaceDataBase} (htable : db.tbUser = table)
    (husers : db.users = []) : Holds table.rows db where
  distinct := unambiguous_of_nodup table.nodup
  rows row hrow := by
    rw [htable] at hrow
    exact hrow
  users u hu := by
    rw [husers] at hu
    cases hu
  issued row hrow := by
    rw [htable]
    exact table.issued_of_mem row hrow

/-- The table loses rows at most, and the cache holds users stored before. -/
theorem of_rows_subset (h : Holds known db) (db' : FaceDataBase)
    (hissued : db'.tbUser.issued = db.tbUser.issued)
    (hrows : ∀ row ∈ db'.tbUser.rows, row ∈ db.tbUser.rows)
    (husers : ∀ u ∈ db'.users, u ∈ known.map UserRow.cached) : Holds known db' where
  distinct := h.distinct
  rows row hrow := h.rows row (hrows row hrow)
  users := husers
  issued row hrow := by
    rw [hissued]
    exact h.issued row hrow

/-- The users of the rows are among those stored. -/
theorem mem_of_mem_toUsers (h : Holds known db) {u : User} (hu : u ∈ db.tbUser.toUsers) :
    u ∈ known.map UserRow.cached := by
  obtain ⟨row, hrow, rfl⟩ := List.mem_map.1 hu
  exact List.mem_map_of_mem (h.rows row hrow)

theorem loadToCache (h : Holds known db) (exec : Bool) : Holds known (db.loadToCache exec) := by
  cases exec with
  | false => exact h
  | true =>
      apply h.of_rows_subset (db.loadToCache true) rfl (fun _ hrow => hrow)
      intro u hu
      rw [FaceDataBase.loadToCache_users] at hu
      exact h.mem_of_mem_toUsers hu

theorem clearUsers (h : Holds known db) : Holds known db.clearUsers :=
  h.of_rows_subset db.clearUsers rfl (fun _ hrow => hrow) fun _ hu => absurd hu List.not_mem_nil

theorem pushUser (h : Holds known db) {user : User} (huser : user ∈ known.map UserRow.cached) :
    Holds known (db.pushUser user) := by
  apply h.of_rows_subset (db.pushUser user) rfl (fun _ hrow => hrow)
  intro u hu
  rcases List.mem_append.1 hu with hu | hu
  · exact h.users u hu
  · rw [List.mem_singleton.1 hu]
    exact huser

/-- An insertion stores one row more, under an id that stood for nobody. -/
theorem addUser (h : Holds known db) (id : { id : Int // db.tbUser.Fresh id })
    (nickName email : String) (faceImg : QImage) :
    Holds (known ++ [⟨id.1, nickName, email, V.saveJpeg faceImg⟩])
      (db.addUser V (some id) nickName email faceImg).2 where
  distinct := by
    apply h.distinct.snoc
    intro row hrow hsame
    have hissued := h.issued row hrow
    rw [hsame] at hissued
    exact id.2.2 hissued
  rows row hrow := by
    rw [FaceDataBase.addUser_rows] at hrow
    rcases List.mem_append.1 hrow with hrow | hrow
    · exact List.mem_append_left _ (h.rows row hrow)
    · exact List.mem_append_right _ hrow
  users u hu := by
    rw [List.map_append]
    exact List.mem_append_left _ (h.users u hu)
  issued row hrow := by
    rcases List.mem_append.1 hrow with hrow | hrow
    · exact List.mem_cons_of_mem _ (h.issued row hrow)
    · rw [List.mem_singleton.1 hrow]
      exact List.mem_cons_self

/-- An id that fits an `int` is cached as it is. -/
theorem cached_id (h : Holds known db) {row : UserRow} (hrow : row ∈ known)
    (hlt : row.userId < 2 ^ 31) : row.cached.id = row.userId :=
  toInt32_of_lt (Int.le_of_lt (db.tbUser.issued_pos _ (h.issued row hrow))) hlt

/-- While ids fit an `int`, a cached user is the one its id stands for. -/
theorem cached_eq (h : Holds known db) (hids : ∀ row ∈ known, row.userId < 2 ^ 31) {u : User}
    (hu : u ∈ db.users) {row : UserRow} (hrow : row ∈ known) (hid : u.id = row.userId) :
    u = row.cached := by
  obtain ⟨row', hrow', rfl⟩ := List.mem_map.1 (h.users u hu)
  have hsame : row'.userId = row.userId :=
    (h.cached_id hrow' (hids row' hrow')).symm.trans hid
  rw [h.distinct row' hrow' row hrow hsame]

end Holds

/-- The ids handed out so far stay handed out. -/
def FaceDataBase.Issues (db db' : FaceDataBase) : Prop :=
  ∀ id ∈ db.tbUser.issued, id ∈ db'.tbUser.issued

/-- Removing rows hands out no id. -/
theorem foldl_removeRow_issued (rows : List Nat) (state : TableModel × TbUser) :
    (rows.foldl removeRow state).2.issued = state.2.issued := by
  induction rows generalizing state with
  | nil => rfl
  | cons row rows ih =>
      rw [List.foldl_cons, ih, removeRow]
      split <;> rfl

section Operations

variable {known : List UserRow} {db : FaceDataBase}

/-- What `RegisterFace(frame, user)` adds to the users ever stored. -/
theorem holds_registerUser (h : Holds known db) {exec : Option { id : Int // db.tbUser.Fresh id }}
    {select : Bool} {frame : Mat} {user : User} {result : Registration Mat FaceDataBase}
    (hr : registerUser V observers db exec select frame user = .ok result) :
    db.Issues result.store ∧ ∃ more, Holds (known ++ more) result.store := by
  rcases registerUser_cases hr with ⟨-, hstore⟩ | ⟨-, -, hstore⟩
  · rw [hstore]
    refine ⟨fun _ hid => hid, [], ?_⟩
    rw [List.append_nil]
    exact h
  · rw [hstore]
    cases exec with
    | none =>
        refine ⟨fun id hid => ?_, [], ?_⟩
        · rw [FaceDataBase.loadToCache_tbUser]
          exact hid
        · rw [List.append_nil]
          exact h.loadToCache select
    | some id =>
        refine ⟨fun i hi => ?_, _, (h.addUser id user.nickName user.email _).loadToCache select⟩
        rw [FaceDataBase.loadToCache_tbUser]
        exact List.mem_cons_of_mem _ hi

/-- Every operation of the server keeps what it holds to users ever stored. -/
theorem holds_serverStep {s t : ServerState V} {e : ServerEvent Mat} (h : Holds known s.db)
    (ht : serverStep V observers s e = some t) :
    s.db.Issues t.db ∧ ∃ more, Holds (known ++ more) t.db := by
  have hsame : s.db.Issues s.db ∧ ∃ more, Holds (known ++ more) s.db :=
    ⟨fun _ hid => hid, [], by rw [List.append_nil]; exact h⟩
  cases e with
  | registerUser frame user exec select =>
      obtain ⟨fresh, -, rfl⟩ := Option.map_eq_some_iff.1 ht
      split
      · next result hr => exact holds_registerUser h hr
      · exact hsame
  | loadToCache exec =>
      cases ht
      refine ⟨fun id hid => ?_, [], ?_⟩
      · rw [FaceDataBase.loadToCache_tbUser]
        exact hid
      · rw [List.append_nil]
        exact h.loadToCache exec
  | refresh =>
      cases ht
      exact hsame
  | deleteSelected selectedIndexes =>
      cases ht
      have hissued := foldl_removeRow_issued (sortedRows selectedIndexes) (s.tableModel, s.db.tbUser)
      refine ⟨fun id hid => ?_, [], ?_⟩
      · show id ∈ ((sortedRows selectedIndexes).foldl removeRow _).2.issued
        rw [hissued]
        exact hid
      · rw [List.append_nil]
        refine h.of_rows_subset { s.db with tbUser :=
          (deleteSelected selectedIndexes (s.tableModel, s.db.tbUser)).2 } hissued ?_ h.users
        intro row hrow
        exact ((mem_foldl_removeRow _ _ _ row).1 hrow).1
  | recognizeFaceFromDb img =>
      cases ht
      exact hsame
  | rpcRegister request answer =>
      obtain ⟨-, rfl⟩ := serverStep_rpcRegister ht
      exact hsame
  | rpcRecognizeFace request =>
      cases ht
      exact hsame

end Operations

end ArmFaceID.Server
