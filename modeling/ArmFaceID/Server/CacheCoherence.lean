import ArmFaceID.Server.RpcManager

/-!
# The cache against the table

`RegisterFace(frame, user)` reloads the cache after an insertion; the delete handler of the table
page does not, and an id that does not fit an `int` is cached as another one. So the cache holds
exactly the rows of the table throughout a run if and only if the ids of the table at the start and
those handed out fit an `int`, and no delete handler of the run removes a row (`cache_coherent_iff`):
the first one that does leaves the user in the cache (`not_coherent_of_delete`).
-/

set_option autoImplicit false

namespace ArmFaceID.Server

open ArmFaceID.Library

variable {Mat QImage : Type} {V : Vision Mat QImage} {observers : List Observer}

/-- The SQL statements of the operation succeed. -/
def SqlSucceeds : ServerEvent Mat → Prop
  | .registerUser _ _ exec select => exec ≠ none ∧ select = true
  | .loadToCache exec => exec = true
  | _ => True

instance (e : ServerEvent Mat) : Decidable (SqlSucceeds e) :=
  match e with
  | .registerUser _ _ _ _ => inferInstanceAs (Decidable (_ ∧ _))
  | .loadToCache _ => inferInstanceAs (Decidable (_ = _))
  | .refresh => isTrue trivial
  | .deleteSelected _ => isTrue trivial
  | .recognizeFaceFromDb _ => isTrue trivial
  | .rpcRegister _ _ => isTrue trivial
  | .rpcRecognizeFace _ => isTrue trivial

/-- One operation whose statements succeed. -/
abbrev sqlStep (V : Vision Mat QImage) (observers : List Observer) :
    ServerState V → ServerEvent Mat → Option (ServerState V) :=
  guardedStep (serverStep V observers) fun _ e => SqlSucceeds e

/-- If the operation is the delete handler, no selected cell lies in a row the page shows. -/
def NoRowSelected (s : ServerState V) : ServerEvent Mat → Prop
  | .deleteSelected selectedIndexes =>
      ∀ cell ∈ selectedIndexes, ∀ row, s.tableModel[cell.1]? ≠ some (some row)
  | _ => True

/-- The frame shows a face, and every user's stored image has similarity below `0.6` with it. -/
def NewFace (V : Vision Mat QImage) (users : List User) (frame : Mat) : Prop :=
  V.detectFaces frame ≠ [] ∧
    ∀ u ∈ users, ∃ s, compareUser V frame u = .ok s ∧ s < compareThreshold

/-- If the operation comes to insert a row, its id fits an `int`. -/
def InsertedIdFits (s : ServerState V) : ServerEvent Mat → Prop
  | .registerUser frame _ (some id) _ => NewFace V s.db.users frame → id < 2 ^ 31
  | _ => True

/-- The operation leaves the cache and the table in agreement. -/
def KeepsCoherent (s : ServerState V) (e : ServerEvent Mat) : Prop :=
  NoRowSelected s e ∧ InsertedIdFits s e

/-- The id a callback announces as recognised. -/
def announcedId : Callback Mat Int → Option Int
  | .onFaceRecognized _ _ id => some id
  | _ => none

/-- Recognition neither returns nor announces the id of a deleted row. -/
def NeverDeleted (V : Vision Mat QImage) (observers : List Observer) (db : FaceDataBase) : Prop :=
  ∀ img r, recognizeFaceFromDb V observers db.users img = .ok r →
    ¬ db.tbUser.Deleted r.id ∧
      ∀ n ∈ r.calls, ∀ id, announcedId n.2 = some id → ¬ db.tbUser.Deleted id

theorem neverDeleted_of_coherent {db : FaceDataBase} (h : db.Coherent) :
    NeverDeleted V observers db := by
  intro img r hr
  rcases recognizeFaceFromDb_cases hr with ⟨-, rfl⟩ | ⟨u, hu, -, rfl⟩
  · exact ⟨db.tbUser.not_deleted_neg_one, fun n hn => absurd hn List.not_mem_nil⟩
  · rw [h] at hu
    obtain ⟨row, hrow, rfl⟩ := List.mem_map.1 hu
    have hlive : ¬ db.tbUser.Deleted row.userId := db.tbUser.not_deleted_of_mem hrow
    refine ⟨hlive, ?_⟩
    intro n hn id hid
    obtain ⟨o, -, rfl⟩ := List.mem_map.1 hn
    cases hid
    exact hlive

/-- Removing places that show no row changes nothing. -/
theorem foldl_removeRow_of_blank {rows : List Nat} {state : TableModel × TbUser}
    (h : ∀ row ∈ rows, ∀ r, state.1[row]? ≠ some (some r)) :
    rows.foldl removeRow state = state := by
  induction rows with
  | nil => rfl
  | cons row rows ih =>
      have hstep : removeRow state row = state := by
        simp only [removeRow]
        split
        · next r hr => exact absurd hr (h row List.mem_cons_self r)
        · rfl
      rw [List.foldl_cons, hstep]
      exact ih fun i hi => h i (List.mem_cons_of_mem _ hi)

/-- Users under their own ids are not cached under `-1`. -/
theorem id_ne_of_coherent {db : FaceDataBase} (h : db.Coherent) : ∀ u ∈ db.users, u.id ≠ -1 := by
  intro u hu
  rw [h] at hu
  obtain ⟨row, hrow, rfl⟩ := List.mem_map.1 hu
  have hpos := db.tbUser.userId_pos hrow
  show row.userId ≠ -1
  omega

/-- With a cache that holds the rows, `RegisterFace(frame, user)` changes nothing, or the frame shows
a new face and the table and the cache are written. -/
theorem registerUser_cases_of_coherent {db : FaceDataBase}
    {exec : Option { id : Int // db.tbUser.Fresh id }} {select : Bool} {frame : Mat} {user : User}
    {result : Registration Mat FaceDataBase} (h : db.Coherent)
    (hr : registerUser V observers db exec select frame user = .ok result) :
    ((V.detectFaces frame = [] ∨ Known V db.users frame) ∧ result.store = db) ∨
      (NewFace V db.users frame ∧ result.store = (db.addUser V exec user.nickName user.email
        (V.matToQimage frame)).2.loadToCache select) := by
  rcases registerUser_cases hr with hsame | ⟨hface, hlow | ⟨u, hu, hid⟩, hstore⟩
  · exact Or.inl hsame
  · exact Or.inr ⟨⟨hface, hlow⟩, hstore⟩
  · exact absurd hid (id_ne_of_coherent h u hu)

theorem idsFit_insert {table : TbUser} {id : Int} (h : table.Fresh id) (nickName email : String)
    (faceImg : Bytes) :
    (table.insert id h nickName email faceImg).IdsFit ↔ table.IdsFit ∧ id < 2 ^ 31 := by
  constructor
  · intro hall
    exact ⟨fun row hrow => hall row (List.mem_append_left _ hrow),
      hall ⟨id, nickName, email, faceImg⟩ (List.mem_append_right _ List.mem_cons_self)⟩
  · rintro ⟨hall, hlt⟩ row hrow
    rcases List.mem_append.1 hrow with hrow | hrow
    · exact hall row hrow
    · rw [List.mem_singleton.1 hrow]
      exact hlt

/-- The cache holds the rows, and their ids fit an `int`. -/
def InStep (db : FaceDataBase) : Prop := db.Coherent ∧ db.tbUser.IdsFit

theorem inStep_registerUser {db : FaceDataBase} {exec : { id : Int // db.tbUser.Fresh id }}
    {frame : Mat} {user : User} {result : Registration Mat FaceDataBase} (h : InStep db)
    (hid : NewFace V db.users frame → exec.1 < 2 ^ 31)
    (hr : registerUser V observers db (some exec) true frame user = .ok result) :
    InStep result.store := by
  rcases registerUser_cases_of_coherent h.1 hr with ⟨-, hstore⟩ | ⟨hnew, hstore⟩
  · rw [hstore]
    exact h
  · have hfit : (db.addUser V (some exec) user.nickName user.email
        (V.matToQimage frame)).2.tbUser.IdsFit := (idsFit_insert exec.2 _ _ _).2 ⟨h.2, hid hnew⟩
    rw [hstore]
    refine ⟨(FaceDataBase.coherent_loadToCache_iff _).2 hfit, ?_⟩
    rw [FaceDataBase.loadToCache_tbUser]
    exact hfit

/-- What one operation does to the agreement of cache and table: only a delete handler that removes
a row, or an insertion under an id that does not fit, can break it. -/
theorem inStep_step {s t : ServerState V} {e : ServerEvent Mat} (h : InStep s.db)
    (hsql : SqlSucceeds e) (hguard : KeepsCoherent s e)
    (ht : serverStep V observers s e = some t) : InStep t.db := by
  cases e with
  | registerUser frame user exec select =>
      obtain ⟨hexec, rfl⟩ := hsql
      obtain ⟨id, rfl⟩ := Option.ne_none_iff_exists'.1 hexec
      simp only [serverStep, freshExec] at ht
      split at ht
      · next hfresh =>
          simp only [Option.map_some, Option.some.injEq] at ht
          subst ht
          have hid : NewFace V s.db.users frame → id < 2 ^ 31 := hguard.2
          split
          · next result hr => exact inStep_registerUser h hid hr
          · exact h
      · cases ht
  | loadToCache exec =>
      cases hsql
      cases ht
      exact ⟨(FaceDataBase.coherent_loadToCache_iff _).2 h.2, h.2⟩
  | refresh =>
      cases ht
      exact h
  | deleteSelected selectedIndexes =>
      have hblank : (sortedRows selectedIndexes).foldl removeRow (s.tableModel, s.db.tbUser) =
          (s.tableModel, s.db.tbUser) := by
        apply foldl_removeRow_of_blank
        intro row hrow
        obtain ⟨cell, hcell, rfl⟩ := mem_sortedRows.1 hrow
        exact hguard.1 cell hcell
      simp only [serverStep, deleteSelected, hblank, Option.some.injEq] at ht
      subst ht
      exact h
  | recognizeFaceFromDb img =>
      cases ht
      exact h
  | rpcRegister request answer =>
      obtain ⟨-, rfl⟩ := serverStep_rpcRegister ht
      exact h
  | rpcRecognizeFace request =>
      cases ht
      exact h

/-- The page shows rows of the table only: nothing but the page itself removes rows. -/
def ShowsRows (s : ServerState V) : Prop :=
  ∀ row, some row ∈ s.tableModel → row ∈ s.db.tbUser.rows

/-- A page that has just selected shows the rows of the table. -/
theorem mem_of_mem_select {table : TbUser} {row : UserRow} (h : some row ∈ select table) :
    row ∈ table.rows := by
  obtain ⟨row', hrow', hsame⟩ := List.mem_map.1 h
  cases hsame
  exact hrow'

/-- `RegisterFace(frame, user)` removes no row. -/
theorem rows_subset_registerUser {db : FaceDataBase}
    {exec : Option { id : Int // db.tbUser.Fresh id }} {select : Bool} {frame : Mat} {user : User}
    {result : Registration Mat FaceDataBase}
    (hr : registerUser V observers db exec select frame user = .ok result) :
    db.tbUser.rows ⊆ result.store.tbUser.rows := by
  rcases registerUser_cases hr with ⟨-, hstore⟩ | ⟨-, -, hstore⟩
  · rw [hstore]
    exact List.Subset.refl _
  · rw [hstore, FaceDataBase.loadToCache_tbUser]
    cases exec with
    | none => exact List.Subset.refl _
    | some id => exact List.subset_append_left _ _

theorem showsRows_step {s t : ServerState V} {e : ServerEvent Mat} (h : ShowsRows s)
    (ht : serverStep V observers s e = some t) : ShowsRows t := by
  cases e with
  | registerUser frame user exec select =>
      obtain ⟨fresh, -, rfl⟩ := Option.map_eq_some_iff.1 ht
      intro row hrow
      split
      · next result hr =>
          rw [hr] at hrow
          exact rows_subset_registerUser hr (h row hrow)
      · next err hr =>
          rw [hr] at hrow
          exact h row hrow
  | loadToCache exec =>
      cases ht
      intro row hrow
      rw [FaceDataBase.loadToCache_tbUser]
      exact h row hrow
  | refresh =>
      cases ht
      exact fun row hrow => mem_of_mem_select hrow
  | deleteSelected selectedIndexes =>
      -- the handler selects again at its end
      cases ht
      exact fun row hrow => mem_of_mem_select hrow
  | recognizeFaceFromDb img =>
      cases ht
      exact h
  | rpcRegister request answer =>
      obtain ⟨-, rfl⟩ := serverStep_rpcRegister ht
      exact h
  | rpcRecognizeFace request =>
      cases ht
      exact h

/-- A delete handler that finds a row of the table selected breaks coherence. -/
theorem not_coherent_of_delete {s t : ServerState V} {selectedIndexes : List (Nat × Nat)}
    (h : s.db.Coherent) {cell : Nat × Nat} (hcell : cell ∈ selectedIndexes) {row : UserRow}
    (hshown : s.tableModel[cell.1]? = some (some row)) (hrow : row ∈ s.db.tbUser.rows)
    (ht : serverStep V observers s (.deleteSelected selectedIndexes) = some t) :
    ¬ t.db.Coherent := by
  intro hco
  simp only [serverStep, deleteSelected, Option.some.injEq] at ht
  -- the selected row leaves the table and stays in the cache
  have hgone : row ∉ t.db.tbUser.rows := by
    rw [← ht]
    show row ∉ ((sortedRows selectedIndexes).foldl removeRow (s.tableModel, s.db.tbUser)).2.rows
    rw [mem_foldl_removeRow]
    rintro ⟨-, hns⟩
    exact hns ⟨cell.1, mem_sortedRows.2 ⟨cell, hcell, rfl⟩, row, hshown, rfl⟩
  have husers : t.db.users = s.db.users := by rw [← ht]
  have hmem : row.toUser ∈ t.db.users := by
    rw [husers, h]
    exact List.mem_map_of_mem hrow
  rw [hco] at hmem
  obtain ⟨row', hrow', heq⟩ := List.mem_map.1 hmem
  have hsame : row' = row := by
    cases row
    cases row'
    simpa [UserRow.toUser] using heq
  exact hgone (hsame ▸ hrow')

variable (observers) in
/-- A new face is inserted. -/
theorem registerUser_of_newFace {db : FaceDataBase}
    (exec : Option { id : Int // db.tbUser.Fresh id }) (select : Bool) {frame : Mat} (user : User)
    (hnew : NewFace V db.users frame) :
    ∃ result, registerUser V observers db exec select frame user = .ok result ∧
      result.store = (db.addUser V exec user.nickName user.email
        (V.matToQimage frame)).2.loadToCache select := by
  obtain ⟨hface, hlow⟩ := hnew
  have hfound : recognizeFaceFromDb V observers db.users frame = .ok ⟨-1, none, []⟩ :=
    recognizeFaceFromDb_of_low hlow
  cases hdet : V.detectFaces frame with
  | nil => exact absurd hdet hface
  | cons face rest =>
      refine ⟨_, by rw [registerUser, hdet, hfound]; rfl, ?_⟩
      simp only [registerUserInsert, if_true]

/-- An insertion under an id that does not fit an `int` breaks coherence. -/
theorem not_coherent_of_insert {s t : ServerState V} {frame : Mat} {user : User} {id : Int}
    (hnew : NewFace V s.db.users frame) (hbig : ¬ id < 2 ^ 31)
    (ht : serverStep V observers s (.registerUser frame user (some id) true) = some t) :
    ¬ t.db.Coherent := by
  simp only [serverStep, freshExec] at ht
  split at ht
  · next hfresh =>
      simp only [Option.map_some, Option.some.injEq] at ht
      obtain ⟨result, hr, hstore⟩ :=
        registerUser_of_newFace observers (some ⟨id, hfresh⟩) true user hnew
      rw [hr] at ht
      rw [← ht]
      show ¬ result.store.Coherent
      rw [hstore, FaceDataBase.coherent_loadToCache_iff]
      exact fun hfit => hbig ((idsFit_insert hfresh _ _ _).1 hfit).2
  · cases ht

/-- Outside the guard one operation breaks coherence. -/
theorem not_coherent_of_not_guard {s t : ServerState V} {e : ServerEvent Mat} (h : s.db.Coherent)
    (hshows : ShowsRows s) (hsql : SqlSucceeds e) (hguard : ¬ KeepsCoherent s e)
    (ht : serverStep V observers s e = some t) : ¬ t.db.Coherent := by
  cases e with
  | deleteSelected selectedIndexes =>
      have hsel : ¬ NoRowSelected s (.deleteSelected selectedIndexes) :=
        fun hsel => hguard ⟨hsel, trivial⟩
      simp only [NoRowSelected, ne_eq, not_forall, not_not] at hsel
      obtain ⟨cell, hcell, row, hshown⟩ := hsel
      have hrow : row ∈ s.db.tbUser.rows := hshows row (List.mem_of_getElem? hshown)
      exact not_coherent_of_delete h hcell hshown hrow ht
  | registerUser frame user exec select =>
      obtain ⟨hexec, rfl⟩ := hsql
      obtain ⟨id, rfl⟩ := Option.ne_none_iff_exists'.1 hexec
      have hids : ¬ InsertedIdFits s (.registerUser frame user (some id) true) :=
        fun hids => hguard ⟨trivial, hids⟩
      obtain ⟨hnew, hbig⟩ := Classical.not_imp.1 hids
      exact not_coherent_of_insert hnew hbig ht
  | _ => exact absurd ⟨trivial, trivial⟩ hguard

/-- **The cache against the table.** In a run from the started server whose statements succeed, the
cache holds exactly the rows of the table in every state, and recognition gives nobody whose row is
deleted, if and only if the ids of the table at the start and of the rows inserted fit an `int`, and
no delete handler of the run finds a row selected. -/
theorem cache_coherent_iff {table : TbUser} {es : List (ServerEvent Mat)} {s : ServerState V}
    (h : Run (sqlStep V observers) (.started V table) es s) :
    Always (sqlStep V observers) (fun t => t.db.Coherent ∧ NeverDeleted V observers t.db)
        (.started V table) es ↔
      table.IdsFit ∧ GuardedRun (sqlStep V observers) KeepsCoherent (.started V table) es s := by
  by_cases hfit : table.IdsFit
  · rw [and_iff_right hfit]
    apply Run.always_iff_guarded (I := fun t => InStep t.db ∧ ShowsRows t) _ _ _ _ h
    · exact ⟨⟨(FaceDataBase.coherent_loadToCache_iff _).2 hfit, hfit⟩,
        fun row hrow => mem_of_mem_select hrow⟩
    · exact fun s hs => ⟨hs.1.1, neverDeleted_of_coherent hs.1.1⟩
    · intro s e t hs hguard ht
      obtain ⟨hsql, ht⟩ := guardedStep_eq_some.1 ht
      exact ⟨inStep_step hs.1 hsql hguard ht, showsRows_step hs.2 ht⟩
    · intro s e t hs hguard ht hboth
      obtain ⟨hsql, ht⟩ := guardedStep_eq_some.1 ht
      exact not_coherent_of_not_guard hs.1.1 hs.2 hsql hguard ht hboth.1
  · -- the first load already puts other ids into the cache
    refine iff_of_false ?_ (fun hboth => hfit hboth.1)
    intro hall
    have hstart := (hall [] _ (List.nil_prefix) .nil).1
    exact hfit ((FaceDataBase.coherent_loadToCache_iff _).1 hstart)

/-- A refresh, the delete handler with nothing selected, and a reload. -/
def nothingDeleted : List (ServerEvent Nat) := [.refresh, .deleteSelected [], .loadToCache true]

theorem cache_coherent_one_row :
    ∃ s, Run (sqlStep sampleVision [7]) (.started sampleVision oneRow) nothingDeleted s ∧
      (Always (sqlStep sampleVision [7])
          (fun t => t.db.Coherent ∧ NeverDeleted sampleVision [7] t.db)
          (.started sampleVision oneRow) nothingDeleted ↔
        oneRow.IdsFit ∧ GuardedRun (sqlStep sampleVision [7]) KeepsCoherent
          (.started sampleVision oneRow) nothingDeleted s) := by
  have hrun : Run (sqlStep sampleVision [7]) (.started sampleVision oneRow) nothingDeleted _ :=
    .snoc (.snoc (.snoc .nil rfl) rfl) rfl
  exact ⟨_, hrun, cache_coherent_iff hrun⟩

/-- Deleting the only row leaves its user in the cache, and recognition answers with it. A row whose
id is `2 ^ 32 + 5` is cached under `5`. -/
theorem cache_not_coherent :
    (∃ s, Run (sqlStep sampleVision [7]) (.started sampleVision oneRow)
        [.deleteSelected [(0, 1)]] s ∧
      ¬ s.db.Coherent ∧ s.db.tbUser.Deleted 1 ∧
      (recognizeFaceFromDb sampleVision [7] s.db.users 2).toOption.map (fun r => (r.id, r.calls)) =
        some (1, [(7, .onFaceRecognized 2 {} 1)])) ∧
    let table : TbUser := { rows := [⟨4294967301, "Ann", "", [2]⟩], issued := [4294967301] }
    (ServerState.started sampleVision table).db.users.map User.id = [5] ∧
      ¬ (ServerState.started sampleVision table).db.Coherent := by
  refine ⟨⟨_, .snoc .nil rfl, by decide, by decide, by decide +kernel⟩, by decide, by decide⟩

end ArmFaceID.Server
