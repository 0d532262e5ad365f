import ArmFaceID.Server.RpcManager

/-!
# Registering over RPC and recognising over RPC

`RpcClient::Register` and the handler behind it write SeetaFace's database; `RecognizeFace` reads
`users_`. The name never reaches the server, the id never reaches the client, and a face registered
already is answered with OK. So the promise of a registration is kept only when the handler refuses
it (`register_promise_iff`): a face stored is not recognised in the state in which the table holds
no user, which can be reached from every state (`exists_no_users`).
-/

set_option autoImplicit false

namespace ArmFaceID.Server

open ArmFaceID.Library

variable {Mat QImage : Type} (V : Vision Mat QImage) (observers : List Observer)

/-! ## The promise -/

/-- What reaches the handler when the client calls `RpcClient::Register(image, name)`, and what it
leaves behind. -/
def clientRegister (s : ServerState V) (answer : Option Nat) (image : Mat) (name : String) :
    Served Mat RegisterResult × V.Gallery :=
  rpcRegister V observers s.gallery answer (Client.registerRequest V.imencode image name)

/-- `probe` is closer to the entry, at `0.6` or more, than to every other registered face: other
entries of SeetaFace's database, rows of the table and cached users. -/
structure Closest (s : ServerState V) (e : Entry V.toSeetaModels) (probe : Mat) : Prop where
  similar : compareThreshold ≤ V.compare probe e.image
  gallery : ∀ e' ∈ s.gallery, e' ≠ e → V.compare probe e'.image < V.compare probe e.image
  users : ∀ u ∈ s.db.users ++ s.db.tbUser.rows.map UserRow.toUser, ∀ similarity,
    compareUser V probe u = .ok similarity → similarity < V.compare probe e.image

/-- From now on `RecognizeFace` answers an image closest to the entry with its index and the name. -/
def Recognisable (s : ServerState V) (e : Entry V.toSeetaModels) (name : String) : Prop :=
  ∀ es later, Run (serverStep V observers) s es later →
    ∀ request probe, V.bytesToMat request.faceImg V.noMat = .ok probe → Closest V later e probe →
      let result := Client.recognizeFace
        (rpcRecognizeFace V observers later.db.users request).handled.reply
      result.id = e.index ∧ result.name = name

/-- What a registration over RPC promises: on OK the face is stored, the client gets its index, and
it is recognised from then on; when nothing is stored the status is not OK. -/
structure RegisterPromise (s : ServerState V) (image : Mat) (name : String)
    (outcome : Served Mat RegisterResult × V.Gallery) : Prop where
  stored : outcome.1.handled.status = .ok → ∃ e, outcome.2 = s.gallery ++ [e] ∧ e.image = image ∧
    Client.register outcome.1.handled.reply = e.index ∧
    Recognisable V observers { s with gallery := outcome.2 } e name
  refused : outcome.2 = s.gallery → outcome.1.handled.status ≠ .ok

/-! ## The state without users -/

/-- Every cell of the page's first column. -/
def allRows (table : TbUser) : List (Nat × Nat) := (List.range table.rows.length).map fun i => (i, 0)

/-- Selecting every row and deleting leaves an empty table. -/
theorem deleteSelected_all (table : TbUser) :
    (deleteSelected (allRows table) (select table, table)).2.rows = [] := by
  rw [List.eq_nil_iff_forall_not_mem]
  intro x hx
  have hmem : x ∈ ((sortedRows (allRows table)).foldl removeRow (select table, table)).2.rows := hx
  rw [mem_foldl_removeRow] at hmem
  obtain ⟨hin, hshown⟩ := hmem
  obtain ⟨i, hi⟩ := List.mem_iff_getElem?.1 hin
  apply hshown
  refine ⟨i, ?_, x, ?_, rfl⟩
  · obtain ⟨hlt, -⟩ := List.getElem?_eq_some_iff.1 hi
    exact mem_sortedRows.2 ⟨(i, 0), List.mem_map.2 ⟨i, List.mem_range.2 hlt, rfl⟩, rfl⟩
  · rw [select, List.getElem?_map, hi]
    rfl

/-- From every state the table and the cache can be emptied, and SeetaFace's database stays. -/
theorem exists_no_users (s : ServerState V) :
    ∃ es t, Run (serverStep V observers) s es t ∧ t.gallery = s.gallery ∧ t.db.users = [] ∧
      t.db.tbUser.rows = [] := by
  let deleted := deleteSelected (allRows s.db.tbUser) (select s.db.tbUser, s.db.tbUser)
  have hempty : deleted.2.rows = [] := deleteSelected_all s.db.tbUser
  let cleared : ServerState V :=
    { s with db := { s.db with tbUser := deleted.2 }, tableModel := deleted.1 }
  have hrun : Run (serverStep V observers) s
      [.refresh, .deleteSelected (allRows s.db.tbUser), .loadToCache true]
      { cleared with db := cleared.db.loadToCache true } :=
    .snoc (.snoc (.snoc .nil rfl) rfl) rfl
  refine ⟨_, _, hrun, rfl, ?_, hempty⟩
  show (cleared.db.loadToCache true).users = []
  rw [FaceDataBase.loadToCache_users, List.map_eq_nil_iff]
  exact hempty

/-! ## The three outcomes -/

section Outcomes

variable {V observers} {s : ServerState V} {answer : Option Nat} {image decoded : Mat}
  {name : String}

/-- The handler on a request that decodes. -/
theorem clientRegister_eq
    (hdec : V.imdecode .color (Client.registerRequest V.imencode image name).faceImg = .ok decoded)
    (hne : V.isEmpty decoded = false) :
    clientRegister V observers s answer image name =
      let result := registerFace V observers s.gallery answer decoded
      (⟨registerReply result.id, result.calls, [decoded]⟩, result.store) := by
  rw [clientRegister, rpcRegister, V.bytesToMat_of_decodes hdec hne]

/-- A request that ends without an entry and without OK keeps the promise. -/
theorem registerPromise_of_refused {calls : List (Notification Mat Int)} {images : List Mat} :
    RegisterPromise V observers s decoded name
      (⟨registerReply (-1), calls, images⟩, s.gallery) := by
  refine ⟨?_, ?_⟩
  · intro h
    cases h
  · intro _ h
    cases h

/-- A face registered already is answered with OK. -/
theorem not_registerPromise_of_matched {calls : List (Notification Mat Int)} {images : List Mat} :
    ¬ RegisterPromise V observers s decoded name
      (⟨registerReply kFaceAlreadyExisted, calls, images⟩, s.gallery) :=
  fun h => h.refused rfl rfl

variable (V observers) in
/-- Without users `RecognizeFace` answers `-1` to every image. -/
theorem rpcRecognizeFace_no_users {request : RecognizeRequest}
    (hdec : V.bytesToMat request.faceImg V.noMat = .ok decoded) :
    rpcRecognizeFace V observers [] request = ⟨⟨.ok, { id := -1 }⟩, [], [decoded]⟩ := by
  simp [rpcRecognizeFace, hdec, recognizeFaceFromDb_nil]

/-- A face stored is not recognised: without users the answer is `-1`, which is no index. -/
theorem not_registerPromise_of_stored {calls : List (Notification Mat Int)} {images : List Mat}
    {e : Entry V.toSeetaModels}
    (hdec : V.imdecode .color (Client.registerRequest V.imencode image name).faceImg = .ok decoded)
    (hne : V.isEmpty decoded = false)
    (hself : compareThreshold ≤ V.compare decoded decoded)
    (hm : ¬ V.Matched s.gallery decoded) :
    ¬ RegisterPromise V observers s decoded name
      (⟨registerReply e.index, calls, images⟩, s.gallery ++ [e]) := by
  intro hpromise
  have hindex : (e.index : Int) ≠ -1 := by omega
  have hok : (registerReply e.index).status = .ok := by rw [registerReply, if_neg hindex]
  obtain ⟨e', hsame, himage, -, hrec⟩ := hpromise.stored hok
  obtain ⟨es, later, hrun, hgallery, husers, hrows⟩ :=
    exists_no_users V observers { s with gallery := s.gallery ++ [e] }
  have hsame' : s.gallery ++ [e] = s.gallery ++ [e'] := hsame
  -- the image registered is itself closest to its entry
  have hclosest : Closest V later e' decoded := by
    refine ⟨by rw [himage]; exact hself, ?_, ?_⟩
    · intro other hother hdiff
      have hold : other ∈ s.gallery := by
        rw [hgallery] at hother
        have hother' : other ∈ s.gallery ++ [e'] := by rw [← hsame']; exact hother
        rcases List.mem_append.1 hother' with h | h
        · exact h
        · exact absurd (List.mem_singleton.1 h) hdiff
      have hlow : V.compare decoded other.image ≤ queryThreshold :=
        le_of_not_gt fun hlt => hm ⟨other, hold, hlt⟩
      rw [himage]
      exact lt_of_le_of_lt hlow (lt_of_lt_of_le queryThreshold_lt_compareThreshold hself)
    · intro u hu
      rw [husers, hrows] at hu
      cases hu
  have hbytes := V.bytesToMat_of_decodes hdec hne V.noMat
  have hanswer := (hrec es later hrun
    ⟨(Client.registerRequest V.imencode image name).faceImg⟩ decoded hbytes hclosest).1
  rw [husers] at hanswer
  have hnobody : rpcRecognizeFace V observers []
      ⟨(Client.registerRequest V.imencode image name).faceImg⟩ =
        ⟨⟨.ok, { id := -1 }⟩, [], [decoded]⟩ :=
    rpcRecognizeFace_no_users V observers hbytes
  rw [hnobody] at hanswer
  have hneg : (-1 : Int) = e'.index := hanswer
  omega

end Outcomes

/-- **When a registration over RPC keeps its promise**: exactly when the face is not registered yet
and, showing no face or refused by the engine, does not get stored either. An image with a face is
taken to be similar to itself. -/
theorem register_promise_iff (s : ServerState V) (answer : Option Nat) (image decoded : Mat)
    (name : String)
    (hdec : V.imdecode .color (Client.registerRequest V.imencode image name).faceImg = .ok decoded)
    (hne : V.isEmpty decoded = false)
    (hself : ∀ mat, V.detectFaces mat ≠ [] → compareThreshold ≤ V.compare mat mat) :
    RegisterPromise V observers s decoded name (clientRegister V observers s answer image name) ↔
      ¬ V.Matched s.gallery decoded ∧ (V.detectFaces decoded = [] ∨ answer = none) := by
  rw [clientRegister_eq hdec hne]
  rcases registerFace_cases V observers s.gallery answer decoded with
    ⟨hm, hr⟩ | ⟨hm, hwhy, hr⟩ | ⟨e, hm, hdet, hans, -, hr⟩
  -- registered already, refused, stored
  · rw [hr]
    exact iff_of_false not_registerPromise_of_matched (fun h => h.1 hm)
  · rw [hr]
    exact iff_of_true registerPromise_of_refused ⟨hm, hwhy⟩
  · rw [hr]
    refine iff_of_false (not_registerPromise_of_stored hdec hne (hself decoded hdet) hm) ?_
    rintro ⟨-, hwhy⟩
    rcases hwhy with hnone | hnone
    · exact hdet hnone
    · rw [hans] at hnone
      cases hnone

/-- Every image of the sample with a face is similar to itself. -/
theorem sampleVision_self (mat : Nat) (h : sampleVision.detectFaces mat ≠ []) :
    compareThreshold ≤ sampleVision.compare mat mat := by
  have hface : ¬ mat < 2 := by
    intro hlt
    apply h
    show (if mat < 2 then [] else _) = _
    rw [if_pos hlt]
  have hone : sampleVision.compare mat mat = ((1 : ℚ) : Similarity) := by
    simp only [FaceEngine.compare, FaceEngine.detectFaces, sampleVision, SeetaModels.engine,
      if_neg hface, if_true]
  rw [hone]
  decide +kernel

theorem register_promise_refused :
    RegisterPromise sampleVision [7] (.started sampleVision oneRow) 2 "Ann"
        (clientRegister sampleVision [7] (.started sampleVision oneRow) none 2 "Ann") ↔
      ¬ sampleVision.Matched [] 2 ∧ (sampleVision.detectFaces 2 = [] ∨ (none : Option Nat) = none) :=
  register_promise_iff sampleVision [7] _ none 2 2 "Ann" rfl rfl sampleVision_self

/-- Registered under index `1`, the face is reported to the client as `0`, and recognising the same
image answers `-1` without a name; registering it again stores nothing and is answered with OK. -/
theorem register_promise_broken :
    let started := ServerState.started sampleVision {}
    let outcome := clientRegister sampleVision [7] started (some 1) 2 "Ann"
    let again := clientRegister sampleVision [7] { started with gallery := outcome.2 } (some 2) 2 "Ann"
    outcome.1.handled.status = .ok ∧ outcome.2.map (fun e => (e.index, e.image)) = [(1, 2)] ∧
      Client.register outcome.1.handled.reply = 0 ∧
      Client.recognizeFace (rpcRecognizeFace sampleVision [7] started.db.users
        { faceImg := [2] }).handled.reply = { id := -1 } ∧
      again.1.handled.status = .ok ∧ again.2.length = 1 ∧
      ¬ RegisterPromise sampleVision [7] started 2 "Ann" outcome := by
  intro started outcome again
  have hstored : outcome.2.map (fun e => (e.index, e.image)) = [(1, 2)] := by decide +kernel
  have hclient : Client.register outcome.1.handled.reply = 0 := by decide +kernel
  have hok : outcome.1.handled.status = .ok := by decide +kernel
  refine ⟨hok, hstored, hclient, by decide +kernel, by decide +kernel, by decide +kernel, ?_⟩
  -- the index of the entry is not the id the client got
  intro hpromise
  obtain ⟨e, hgallery, -, hid, -⟩ := hpromise.stored hok
  have hentry : [e].map (fun e => (e.index, e.image)) = [(1, 2)] := by
    rw [← hstored, hgallery]
    rfl
  have hindex : e.index = 1 := by
    injection hentry with hpair
    injection hpair
  rw [hclient, hindex] at hid
  cases hid

end ArmFaceID.Server
