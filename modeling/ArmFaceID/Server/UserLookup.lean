import ArmFaceID.Server.SqlQuery

/-!
# The two lookups by id

`GetUserById(id, res)` prepares a statement for the id and then calls `exec(sql_select_tb_usr)`,
which runs the other text: it reads the first row of the table, whatever its id, with name and email
in each other's places, and copies the image into an empty vector. It agrees with `GetUserById(id)`
only when none of this shows (`lookupsAgree_iff`).
-/

set_option autoImplicit false

namespace ArmFaceID.Server

/-- What the language leaves undefined. -/
inductive Undefined where
  | writePastEnd
  deriving DecidableEq

/-- `std::copy(src.begin(), src.end(), dst.begin())`: `dst` keeps its size. -/
def copyInto (dst src : Bytes) : Except Undefined Bytes :=
  if src.length ≤ dst.length then .ok (src ++ dst.drop src.length) else .error .writePastEnd

/-- `GetUserById(id, res)`: the value returned and what `res` holds. `rows` are the rows of the
table, `exec` says whether the statement succeeds. -/
def getUserByIdInto (rows : List UserRow) (exec : Bool) (id : Int) (res : User) :
    Except Undefined (Int × User) :=
  let q := QSqlQuery.prepare {} (selectUserById id)
  if exec then do
    let q := q.exec rows sqlSelectTbUsr
    -- the result of `next()` is not looked at
    let (_, q) := q.next
    let res := { res with
      id := (q.value 0).toInt
      email := (q.value 1).toStdString
      nickName := (q.value 2).toStdString }
    let img := (q.value 3).toByteArray
    -- the vector is cleared, and has no room for the bytes copied
    let faceImgBytes ← copyInto [] img
    return (res.id, { res with faceImgBytes := faceImgBytes })
  else .ok (-1, res)

/-- The lookup in the table answers as the lookup in a cache just loaded: a row with that id is
found whole, and without one the answer is `-1`, `res` keeps its value, and the cache gives a user
with an id that no row has. -/
structure LookupsAgree (table : TbUser) (id : Int) (res : User) : Prop where
  present : ∀ row ∈ table.rows, row.userId = id →
    getUserByIdInto table.rows true id res = .ok (id, row.toUser) ∧
      getUserById (loadUsers [] (some table.rows)) id = row.toUser
  absent : (∀ row ∈ table.rows, row.userId ≠ id) →
    getUserByIdInto table.rows true id res = .ok (-1, res) ∧
      ∀ row ∈ table.rows, (getUserById (loadUsers [] (some table.rows)) id).id ≠ row.userId

/-- Reading the first row, with name and email exchanged and without an image, makes no difference:
the first row counts as the row asked for, or its id becomes `-1` as an `int` and `res` holds what
is read of it. -/
def MistakeHidden (table : TbUser) (id : Int) (res : User) : Prop :=
  ∃ row rest, table.rows = row :: rest ∧ row.faceImg = [] ∧
    ((toInt32 row.userId = id ∧ row.nickName = row.email ∧ ∃ asked ∈ table.rows,
        asked.userId = id ∧ asked.nickName = row.nickName ∧ asked.email = row.email ∧
          asked.faceImg = []) ∨
      ((∀ other ∈ table.rows, other.userId ≠ id) ∧ toInt32 row.userId = -1 ∧
        res = { id := -1, nickName := row.email, email := row.nickName }))

/-- The first row is the one asked for, with one text as name and email, and no image. -/
def FirstRowPlain (table : TbUser) (id : Int) : Prop :=
  ∃ row rest, table.rows = row :: rest ∧ row.userId = id ∧ row.nickName = row.email ∧
    row.faceImg = []

section Specs

variable (id : Int) (res : User)

/-- On an empty table nothing is found and the answer is `0`. -/
theorem getUserByIdInto_nil : getUserByIdInto [] true id res = .ok (0, {}) := rfl

/-- On any other table the first row is read, and its image breaks the copy unless it is empty. -/
theorem getUserByIdInto_cons (row : UserRow) (rest : List UserRow) :
    getUserByIdInto (row :: rest) true id res =
      if row.faceImg = [] then .ok (toInt32 row.userId,
        { id := toInt32 row.userId, nickName := row.email, email := row.nickName })
      else .error .writePastEnd := by
  obtain ⟨userId, nickName, email, faceImg⟩ := row
  cases faceImg with
  | nil => rfl
  | cons b bytes => rfl

variable {id res} {table : TbUser} {row : UserRow} {rest : List UserRow}

/-- Rows with one id are one row. -/
theorem eq_of_userId_eq {a b : UserRow} (ha : a ∈ table.rows) (hb : b ∈ table.rows)
    (h : a.userId = b.userId) : a = b := List.inj_on_of_nodup_map table.nodup ha hb h

/-- The lookup in the cache that the first row answers. -/
theorem getUserById_load_first (hrows : table.rows = row :: rest) (h : toInt32 row.userId = id) :
    getUserById (loadUsers [] (some table.rows)) id = row.cached := by
  have hid : row.cached.id = id := h
  rw [loadUsers_eq, hrows, List.map_cons, getUserById, if_pos hid]

/-- An id that no row has is answered with a user that is no row's. -/
theorem getUserById_load_absent (habsent : ∀ row ∈ table.rows, row.userId ≠ id) :
    ∀ row ∈ table.rows, (getUserById (loadUsers [] (some table.rows)) id).id ≠ row.userId := by
  intro row hrow
  rcases getUserById_cases (loadUsers [] (some table.rows)) id with hid | hdefault
  · rw [hid]
    exact (habsent row hrow).symm
  · have hpos := table.userId_pos hrow
    rw [hdefault]
    show (0 : Int) ≠ row.userId
    omega

/-- Agreement on a table that is not empty shows what the first row holds. -/
theorem mistakeHidden_of_agree (hrows : table.rows = row :: rest)
    (h : LookupsAgree table id res) : MistakeHidden table id res := by
  have hread := getUserByIdInto_cons id res row rest
  rw [← hrows] at hread
  by_cases himg : row.faceImg = []
  · rw [if_pos himg] at hread
    refine ⟨row, rest, hrows, himg, ?_⟩
    by_cases hex : ∃ asked ∈ table.rows, asked.userId = id
    · obtain ⟨asked, hasked, hid⟩ := hex
      obtain ⟨hinto, hcache⟩ := h.present asked hasked hid
      have hsame := Except.ok.inj (hread.symm.trans hinto)
      have hwrap : toInt32 row.userId = id := congrArg Prod.fst hsame
      rw [getUserById_load_first hrows hwrap] at hcache
      have hname : row.nickName = asked.nickName := congrArg User.nickName hcache
      have hemail : row.email = asked.email := congrArg User.email hcache
      have hswap : row.email = asked.nickName := congrArg (fun p => p.2.nickName) hsame
      have hbytes : row.faceImg = asked.faceImg := congrArg User.faceImgBytes hcache
      exact Or.inl ⟨hwrap, hname.trans hswap.symm, asked, hasked, hid, hname.symm, hemail.symm,
        hbytes.symm.trans himg⟩
    · have habsent : ∀ other ∈ table.rows, other.userId ≠ id := fun other hother hid =>
        hex ⟨other, hother, hid⟩
      have hsame := Except.ok.inj (hread.symm.trans (h.absent habsent).1)
      have hwrap : toInt32 row.userId = -1 := congrArg Prod.fst hsame
      rw [hwrap] at hsame
      exact Or.inr ⟨habsent, hwrap, (congrArg Prod.snd hsame).symm⟩
  · -- the copy goes past the end of the vector
    rw [if_neg himg] at hread
    by_cases hex : ∃ asked ∈ table.rows, asked.userId = id
    · obtain ⟨asked, hasked, hid⟩ := hex
      cases hread.symm.trans (h.present asked hasked hid).1
    · have habsent : ∀ other ∈ table.rows, other.userId ≠ id := fun other hother hid =>
        hex ⟨other, hother, hid⟩
      cases hread.symm.trans (h.absent habsent).1

theorem agree_of_mistakeHidden (h : MistakeHidden table id res) : LookupsAgree table id res := by
  obtain ⟨row, rest, hrows, himg, hcase⟩ := h
  have hread := getUserByIdInto_cons id res row rest
  rw [← hrows, if_pos himg] at hread
  rcases hcase with ⟨hwrap, hplain, asked, hasked, hid, hname, hemail, hbytes⟩ |
    ⟨habsent, hwrap, hres⟩
  · have huser : row.cached = asked.toUser := by
      rw [UserRow.cached_eq, UserRow.toUser, hwrap, hid, hname, hemail, hbytes, himg]
    refine ⟨?_, fun habsent => absurd hid (habsent asked hasked)⟩
    intro other hother hother_id
    have hsame : other = asked := eq_of_userId_eq hother hasked (hother_id.trans hid.symm)
    rw [hsame]
    refine ⟨?_, ?_⟩
    · rw [hread, ← huser, UserRow.cached_eq, himg, hwrap, hplain]
    · rw [getUserById_load_first hrows hwrap, huser]
  · refine ⟨fun other hother hid => absurd hid (habsent other hother), ?_⟩
    intro _
    refine ⟨?_, getUserById_load_absent habsent⟩
    rw [hread, hres, hwrap]

theorem mistakeHidden_iff (hids : ∀ row ∈ table.rows, row.userId < 2 ^ 31) :
    MistakeHidden table id res ↔ FirstRowPlain table id := by
  have hint : ∀ row ∈ table.rows, toInt32 row.userId = row.userId := fun row hrow =>
    toInt32_of_lt (Int.le_of_lt (table.userId_pos hrow)) (hids row hrow)
  constructor
  · rintro ⟨row, rest, hrows, himg, hcase⟩
    have hrow : row ∈ table.rows := by
      rw [hrows]
      exact List.mem_cons_self
    rcases hcase with ⟨hwrap, hplain, -⟩ | ⟨-, hwrap, -⟩
    · rw [hint row hrow] at hwrap
      exact ⟨row, rest, hrows, hwrap, hplain, himg⟩
    · have hpos := table.userId_pos hrow
      rw [hint row hrow] at hwrap
      omega
  · rintro ⟨row, rest, hrows, hid, hplain, himg⟩
    have hrow : row ∈ table.rows := by
      rw [hrows]
      exact List.mem_cons_self
    refine ⟨row, rest, hrows, himg, Or.inl ⟨?_, hplain, row, hrow, hid, rfl, rfl, himg⟩⟩
    rw [hint row hrow, hid]

variable (table id res) in
/-- The two lookups agree exactly when the mistakes of the one in the table do not show; when the
ids fit an `int` that means: the first row is the one asked for, has one text as name and email, and
no image. -/
theorem lookupsAgree_iff :
    (LookupsAgree table id res ↔ MistakeHidden table id res) ∧
      ((∀ row ∈ table.rows, row.userId < 2 ^ 31) →
        (MistakeHidden table id res ↔ FirstRowPlain table id)) := by
  refine ⟨⟨?_, agree_of_mistakeHidden⟩, mistakeHidden_iff⟩
  intro h
  cases hrows : table.rows with
  | nil =>
      have habsent : ∀ row ∈ table.rows, row.userId ≠ id := by
        rw [hrows]
        intro row hrow
        cases hrow
      have hres := (h.absent habsent).1
      rw [hrows, getUserByIdInto_nil] at hres
      cases hres
  | cons row rest => exact mistakeHidden_of_agree hrows h

end Specs

/-- A user with an image is not read back, and an id without a row is not answered with `-1`. -/
theorem lookup_mistaken : ¬ LookupsAgree oneRow 1 {} ∧ ¬ LookupsAgree {} 2 {} := by
  constructor
  · intro h
    obtain ⟨hinto, -⟩ := h.present ⟨1, "Ann", "", [2]⟩ List.mem_cons_self rfl
    cases hinto
  · intro h
    obtain ⟨hinto, -⟩ := h.absent (fun row hrow => absurd hrow List.not_mem_nil)
    exact absurd (congrArg Prod.fst (Except.ok.inj hinto)) (by decide)

end ArmFaceID.Server
