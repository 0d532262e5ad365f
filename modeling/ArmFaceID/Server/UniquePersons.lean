import ArmFaceID.Server.CacheCoherence

/-!
# Registration keeps persons unique

`RegisterFace(frame, user)` checks the cache and inserts into the table. In a run of such calls from
an empty database in which ids fit an `int` the two agree after every call, whatever insertions fail,
so the check is made against all rows: a row is inserted only when no row then present has similarity
`0.6` with the frame (`persons_unique`). Under an id that becomes `-1` as an `int` a person is
inserted again and again (`persons_not_unique`).
-/

set_option autoImplicit false

namespace ArmFaceID.Server

open ArmFaceID.Library

variable {Mat QImage : Type} (V : Vision Mat QImage) (observers : List Observer)

/-- A call of `RegisterFace(frame, user)` with the outcome of its `INSERT`. -/
structure RegisterUserCall (Mat : Type) where
  frame : Mat
  user : User
  exec : Option Int

/-- The call as an operation of the server; the `SELECT` of its reload succeeds. -/
def RegisterUserCall.event (c : RegisterUserCall Mat) : ServerEvent Mat :=
  .registerUser c.frame c.user c.exec true

/-- The frame shows a face, and every row's stored image has similarity below `0.6` with it. -/
def NewPerson (rows : List UserRow) (frame : Mat) : Prop :=
  NewFace V (rows.map UserRow.toUser) frame

/-- The id handed out for the call fits an `int`. -/
def RegisterUserCall.IdFits (c : RegisterUserCall Mat) : Prop := ∀ id, c.exec = some id → id < 2 ^ 31

/-- Some call of the run inserted the row, and at that moment its frame showed a new person. -/
def InsertedAsNew (start : ServerState V) (calls : List (RegisterUserCall Mat)) (row : UserRow) :
    Prop :=
  ∃ earlier c before after, earlier ++ [c] <+: calls ∧
    Run (serverStep V observers) start (earlier.map RegisterUserCall.event) before ∧
    serverStep V observers before c.event = some after ∧
    after.db.tbUser.rows = before.db.tbUser.rows ++ [row] ∧
    NewPerson V before.db.tbUser.rows c.frame

section Step

variable {V observers} {s t : ServerState V} {c : RegisterUserCall Mat}

/-- What one call does from a state whose cache holds the rows: leave both, when no face is detected
or a row matches, or else reload after an insertion that may have failed. -/
theorem registerUserCall_cases (hco : s.db.Coherent)
    (ht : serverStep V observers s c.event = some t) :
    t.db = s.db ∨ (NewPerson V s.db.tbUser.rows c.frame ∧
      ∃ exec, freshExec s.db.tbUser c.exec = some exec ∧
        t.db = (s.db.addUser V exec c.user.nickName c.user.email
          (V.matToQimage c.frame)).2.loadToCache true) := by
  obtain ⟨exec, hexec, rfl⟩ := Option.map_eq_some_iff.1 ht
  cases hr : registerUser V observers s.db exec true c.frame c.user with
  | error err => exact Or.inl rfl
  | ok result =>
      rcases registerUser_cases_of_coherent hco hr with ⟨-, hstore⟩ | ⟨hnew, hstore⟩
      · exact Or.inl hstore
      · rw [hco] at hnew
        exact Or.inr ⟨hnew, exec, hexec, hstore⟩

theorem freshExec_eq_some {table : TbUser} {exec : Option Int}
    {fresh : Option { id : Int // table.Fresh id }} (h : freshExec table exec = some fresh) :
    exec = fresh.map Subtype.val := by
  cases exec with
  | none =>
      cases h
      rfl
  | some id =>
      rw [freshExec] at h
      split at h
      · cases h
        rfl
      · cases h

/-- A call that writes restores the agreement of cache and rows, and adds one row at most. -/
theorem inStep_registerUserCall (hin : InStep s.db) (hid : c.IdFits)
    (ht : serverStep V observers s c.event = some t) :
    InStep t.db ∧ (t.db.tbUser.rows = s.db.tbUser.rows ∨
      NewPerson V s.db.tbUser.rows c.frame ∧ ∃ row, t.db.tbUser.rows = s.db.tbUser.rows ++ [row]) := by
  rcases registerUserCall_cases hin.1 ht with hsame | ⟨hnew, exec, hexec, hdb⟩
  · rw [hsame]
    exact ⟨hin, Or.inl rfl⟩
  · have hexec := freshExec_eq_some hexec
    rw [hdb, InStep, FaceDataBase.coherent_loadToCache_iff, FaceDataBase.loadToCache_tbUser,
      and_self]
    cases exec with
    | none => exact ⟨hin.2, Or.inl rfl⟩
    | some id =>
        have hlt : id.1 < 2 ^ 31 := hid id.1 hexec
        exact ⟨(idsFit_insert id.2 _ _ _).2 ⟨hin.2, hlt⟩, Or.inr ⟨hnew, _, rfl⟩⟩

/-- A call whose frame shows no face or matches a row changes nothing. -/
theorem db_eq_of_not_newPerson (hco : s.db.Coherent)
    (ht : serverStep V observers s c.event = some t)
    (hold : V.detectFaces c.frame = [] ∨ ∃ row ∈ s.db.tbUser.rows, ∃ similarity,
      compareUser V c.frame row.toUser = .ok similarity ∧ compareThreshold ≤ similarity) :
    t.db = s.db := by
  rcases registerUserCall_cases hco ht with h | ⟨⟨hface, hlow⟩, -⟩
  · exact h
  · rcases hold with hnone | ⟨row, hrow, similarity, hsim, hle⟩
    · exact absurd hnone hface
    · obtain ⟨s', hs', hlt⟩ := hlow row.toUser (List.mem_map_of_mem hrow)
      have hsame : similarity = s' := Except.ok.inj (hsim.symm.trans hs')
      rw [hsame] at hle
      exact absurd hlt (not_lt_of_ge hle)

theorem InsertedAsNew.mono {start : ServerState V} {calls : List (RegisterUserCall Mat)}
    {row : UserRow} (h : InsertedAsNew V observers start calls row) (c : RegisterUserCall Mat) :
    InsertedAsNew V observers start (calls ++ [c]) row := by
  obtain ⟨earlier, c', before, after, hpre, hrun, hstep, hrows, hnew⟩ := h
  exact ⟨earlier, c', before, after, hpre.trans (List.prefix_append calls [c]), hrun, hstep, hrows,
    hnew⟩

end Step

/-- After any calls from the empty database whose ids fit the cache holds the rows, each inserted for
a new person. -/
theorem persons_invariant {calls : List (RegisterUserCall Mat)} {s : ServerState V}
    (h : Run (serverStep V observers) {} (calls.map RegisterUserCall.event) s)
    (hids : ∀ c ∈ calls, c.IdFits) :
    InStep s.db ∧ ∀ row ∈ s.db.tbUser.rows, InsertedAsNew V observers {} calls row := by
  -- the last call is judged against the rows the earlier ones have left
  induction calls using List.reverseRecOn generalizing s with
  | nil =>
      cases run_iff_exec.1 h
      exact ⟨⟨rfl, fun row hrow => absurd hrow List.not_mem_nil⟩,
        fun row hrow => absurd hrow List.not_mem_nil⟩
  | append_singleton calls c ih =>
      have hexec := run_iff_exec.1 h
      rw [List.map_append, List.map_singleton, exec_snoc, Option.bind_eq_some_iff] at hexec
      obtain ⟨before, hbefore, hstep⟩ := hexec
      have hrun := run_iff_exec.2 hbefore
      obtain ⟨hin, hrows⟩ := ih hrun fun c' hc' => hids c' (List.mem_append_left _ hc')
      have hid : c.IdFits := hids c (List.mem_append_right _ List.mem_cons_self)
      obtain ⟨hin', hgrown⟩ := inStep_registerUserCall hin hid hstep
      refine ⟨hin', ?_⟩
      -- a row inserted before stays inserted by the same call
      have hkeep : ∀ row ∈ before.db.tbUser.rows, InsertedAsNew V observers {} (calls ++ [c]) row :=
        fun row hrow => (hrows row hrow).mono c
      rcases hgrown with hsame | ⟨hnew, row, hrow⟩
      · rw [hsame]
        exact hkeep
      · rw [hrow]
        intro r hr
        rcases List.mem_append.1 hr with hr | hr
        · exact hkeep r hr
        · rw [List.mem_singleton.1 hr]
          exact ⟨calls, c, before, s, List.prefix_refl _, hrun, hstep, hrow, hnew⟩

/-- **Registration keeps persons unique.** After any calls from the empty database whose ids fit an
`int` the cache holds exactly the rows; each row was inserted when its frame was below `0.6` with
every row then present; and a further call whose frame shows no face, or matches a row at `0.6` or
more, changes nothing. -/
theorem persons_unique {calls : List (RegisterUserCall Mat)} {s : ServerState V}
    (h : Run (serverStep V observers) {} (calls.map RegisterUserCall.event) s)
    (hids : ∀ c ∈ calls, c.IdFits) :
    s.db.Coherent ∧ (∀ row ∈ s.db.tbUser.rows, InsertedAsNew V observers {} calls row) ∧
      ∀ c t, serverStep V observers s (RegisterUserCall.event c) = some t →
        (V.detectFaces c.frame = [] ∨ ∃ row ∈ s.db.tbUser.rows, ∃ similarity,
          compareUser V c.frame row.toUser = .ok similarity ∧ compareThreshold ≤ similarity) →
        t.db = s.db := by
  obtain ⟨hin, hrows⟩ := persons_invariant V observers h hids
  exact ⟨hin.1, hrows, fun c t ht hold => db_eq_of_not_newPerson hin.1 ht hold⟩

/-- Ann is inserted, and the same face comes again. -/
def annTwice : List (RegisterUserCall Nat) :=
  [⟨2, { nickName := "Ann" }, some 1⟩, ⟨2, { nickName := "Bob" }, some 2⟩]

theorem persons_unique_twice :
    ∃ s : ServerState sampleVision, Run (serverStep sampleVision [7]) {}
        (annTwice.map RegisterUserCall.event) s ∧
      s.db.tbUser.rows = [⟨1, "Ann", "", [2]⟩] ∧ s.db.Coherent ∧
      ∀ row ∈ s.db.tbUser.rows, InsertedAsNew sampleVision [7] {} annTwice row := by
  have hrows : (exec (serverStep sampleVision [7]) {} (annTwice.map RegisterUserCall.event)).map
      (fun s => s.db.tbUser.rows) = some [⟨1, "Ann", "", [2]⟩] := by decide +kernel
  obtain ⟨s, hs, hrows⟩ := Option.map_eq_some_iff.1 hrows
  have hids : ∀ c ∈ annTwice, c.IdFits := by
    intro c hc id hid
    rcases List.mem_cons.1 hc with rfl | hc
    · cases hid
      decide
    · rw [List.mem_singleton.1 hc] at hid
      cases hid
      decide
  have hall := persons_unique sampleVision [7] (run_iff_exec.2 hs) hids
  exact ⟨s, run_iff_exec.2 hs, hrows, hall.1, hall.2.1⟩

/-- Under the id `2 ^ 32 - 1` Ann is cached as `-1`, the answer for nobody, and inserted again. -/
theorem persons_not_unique :
    ∃ s : ServerState sampleVision, Run (serverStep sampleVision [7]) {}
        (([⟨2, { nickName := "Ann" }, some 4294967295⟩, ⟨2, { nickName := "Ann" }, some 4294967296⟩] :
          List (RegisterUserCall Nat)).map RegisterUserCall.event) s ∧
      s.db.tbUser.rows = [⟨4294967295, "Ann", "", [2]⟩, ⟨4294967296, "Ann", "", [2]⟩] ∧
      s.db.users.map User.id = [-1, 0] ∧ ¬ s.db.Coherent := by
  have hcomputed : (exec (serverStep sampleVision [7]) {}
      (([⟨2, { nickName := "Ann" }, some 4294967295⟩, ⟨2, { nickName := "Ann" }, some 4294967296⟩] :
        List (RegisterUserCall Nat)).map RegisterUserCall.event)).map
      (fun s => (s.db.tbUser.rows, s.db.users.map User.id)) =
      some ([⟨4294967295, "Ann", "", [2]⟩, ⟨4294967296, "Ann", "", [2]⟩], [-1, 0]) := by
    decide +kernel
  obtain ⟨s, hs, hboth⟩ := Option.map_eq_some_iff.1 hcomputed
  have hrows := congrArg Prod.fst hboth
  have husers := congrArg Prod.snd hboth
  refine ⟨s, run_iff_exec.2 hs, hrows, husers, ?_⟩
  intro hco
  have hids : s.db.users.map User.id = s.db.tbUser.rows.map UserRow.userId := by
    rw [hco, List.map_map]
    rfl
  have husers : s.db.users.map User.id = [-1, 0] := husers
  have hrows : s.db.tbUser.rows = _ := hrows
  rw [husers, hrows] at hids
  exact absurd hids (by decide)

end ArmFaceID.Server
