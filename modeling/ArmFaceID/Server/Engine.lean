import ArmFaceID.Server.FaceDatabase

/-!
# Recognition and registration

The operations of `FaceDetectorServer` in `server/engine.cpp` that the handlers and the worker
threads call: recognition against the cached users, and the three ways to register a face. Each
returns what the source returns together with the calls made on the observers and the new contents
of the store it writes. Log output and the images `RecognizeFace` writes to disk are left out.

`cv::imdecode` may throw; the exception leaves the operation, and nothing has been written by then.
-/

set_option autoImplicit false

namespace ArmFaceID.Server

open ArmFaceID.Library

variable {Mat QImage : Type} (V : Vision Mat QImage) (observers : List Observer)

/-! ## Recognition against the cached users -/

/-- The similarity of `img` with a cached user's stored image. -/
def compareUser (img : Mat) (iter : User) : Except CvException Similarity := do
  let decodedMat ← V.imdecode .unchanged iter.faceImgBytes
  return V.compare img decodedMat

/-- The loop body of `RecognizeFaceFromDb` on the variables `top_similarity` and `user`. -/
def recognizeBody (img : Mat) (top : Similarity × User) (iter : User) :
    Except CvException (Similarity × User) := do
  let similarity ← compareUser V img iter
  -- a tie keeps the user met first
  if top.1 < similarity then return (similarity, iter)
  return top

/-- `top_similarity` and `user` before the loop. -/
def recognizeStart : Similarity × User := (0, { id := -1 })

/-- What recognition gives back: the id returned, the user written to `*info`, and the calls made on
the observers. -/
structure Recognition (Mat : Type) where
  id : Int
  info : Option User
  calls : List (Notification Mat Int)

/-- `RecognizeFaceFromDb` after the loop. -/
def recognizeFinish (img : Mat) (top : Similarity × User) : Recognition Mat :=
  -- `*info` keeps what it held, and nobody is called
  if top.1 < compareThreshold then ⟨-1, none, []⟩
  else ⟨top.2.id, some top.2, notifyAll observers (.onFaceRecognized img {} top.2.id)⟩

/-- `FaceDetectorServer::RecognizeFaceFromDb` on the cached users. -/
def recognizeFaceFromDb (users : List User) (img : Mat) :
    Except CvException (Recognition Mat) := do
  let top ← users.foldlM (recognizeBody V img) recognizeStart
  return recognizeFinish observers img top

/-- What `*info` holds after `if (info) *info = ...`, `none` being a null pointer: nothing may have
been written. -/
def writeInfo (info written : Option User) : Option User := info.map fun old => written.getD old

/-- What `IsAlreadyExistInDB` gives back: the value returned, the user written to `*user`, and the
calls made on the observers, of which it makes none. -/
structure Existence (Mat : Type) where
  found : Bool
  user : Option User
  calls : List (Notification Mat Int) := []

/-- The loop body of `IsAlreadyExistInDB` on the variables `top_similarity` and `matched_user`. -/
def existBody (img : Mat) (top : Similarity × User) (iter : User) :
    Except CvException (Similarity × User) := do
  let similarity ← compareUser V img iter
  if top.1 < similarity then return (similarity, iter)
  return top

/-- `IsAlreadyExistInDB` after the loop. -/
def existFinish (top : Similarity × User) : Existence Mat :=
  if compareThreshold ≤ top.1 then { found := true, user := some top.2 }
  else { found := false, user := none }

/-- `FaceDetectorServer::IsAlreadyExistInDB` on the cached users. The id of `matched_user` is not
initialised; `indeterminate` is what it holds. -/
def isAlreadyExistInDB (users : List User) (img : Mat) (indeterminate : Int) :
    Except CvException (Existence Mat) := do
  let top ← users.foldlM (existBody V img) (0, { id := indeterminate })
  return existFinish top

/-- Some cached user's stored image has similarity at least `0.6` with `img`. -/
def Known (users : List User) (img : Mat) : Prop :=
  ∃ u ∈ users, ∃ s, compareUser V img u = .ok s ∧ compareThreshold ≤ s

/-! ## Registration -/

/-- What a registration gives back: the value returned, the calls made on the observers, and the
contents of the store afterwards. -/
structure Registration (Mat Store : Type) where
  id : Int
  calls : List (Notification Mat Int)
  store : Store

/-- The calls of the loops over `observers_` that report a registration. -/
def reportRegistered (frame : Mat) (code : Int) : List (Notification Mat Int) :=
  notifyAll observers (.onFaceRegistered frame {} code)

/-- The second half of `RegisterFace(frame)`: the insertion and its report. -/
def registerFaceInsert (gallery : V.Gallery) (answer : Option Nat) (frame : Mat) :
    Registration Mat V.Gallery :=
  let (id, gallery) := V.register answer gallery frame
  -- `-1` is also the answer of an engine that sees a face and fails to store it
  if id = -1 then ⟨id, reportRegistered observers frame kFaceNotDetected, gallery⟩
  else ⟨id, reportRegistered observers frame id, gallery⟩

/-- The first half of `RegisterFace(frame)`: its answer if `Query` finds the face registered. -/
def registerFaceQuery (gallery : V.Gallery) (frame : Mat) : Option (Registration Mat V.Gallery) :=
  let (id, similarity) := V.query gallery frame 0
  if id ≠ -1 ∧ queryThreshold < similarity then
    some ⟨kFaceAlreadyExisted, reportRegistered observers frame kFaceAlreadyExisted, gallery⟩
  else none

/-- `FaceDetectorServer::RegisterFace(frame)`, over SeetaFace's own database. -/
def registerFace (gallery : V.Gallery) (answer : Option Nat) (frame : Mat) :
    Registration Mat V.Gallery :=
  match registerFaceQuery V observers gallery frame with
  | some result => result
  | none => registerFaceInsert V observers gallery answer frame

/-- `RegisterFace(frame, user)` once recognition has answered `id`. -/
def registerUserInsert (db : FaceDataBase) (exec : Option { id : Int // db.tbUser.Fresh id })
    (select : Bool) (frame : Mat) (user : User) (id : Int) : Registration Mat FaceDataBase :=
  if id = -1 then
    -- the result of the insertion is dropped: neither its id nor its failure gets any further
    let (_, db) := db.addUser V exec user.nickName user.email (V.matToQimage frame)
    ⟨id, reportRegistered observers frame 999, db.loadToCache select⟩
  else ⟨id, reportRegistered observers frame kFaceAlreadyExisted, db⟩

/-- `FaceDetectorServer::RegisterFace(frame, user)`, over the table and its cache. `exec` and
`select` are the outcomes of the `INSERT` and of the `SELECT` of the reload. -/
def registerUser (db : FaceDataBase) (exec : Option { id : Int // db.tbUser.Fresh id })
    (select : Bool) (frame : Mat) (user : User) :
    Except CvException (Registration Mat FaceDataBase) :=
  match V.detectFaces frame with
  | [] => .ok ⟨kFaceNotDetected, reportRegistered observers frame kFaceNotDetected, db⟩
  | _ :: _ => do
      let found ← recognizeFaceFromDb V observers db.users frame
      let result := registerUserInsert V observers db exec select frame user found.id
      return { result with calls := found.calls ++ result.calls }

/-- A matched face is reported and nothing is written. -/
theorem registerUserInsert_of_ne (db : FaceDataBase)
    (exec : Option { id : Int // db.tbUser.Fresh id }) (select : Bool) (frame : Mat) (user : User)
    {id : Int} (h : id ≠ -1) : registerUserInsert V observers db exec select frame user id =
      ⟨id, reportRegistered observers frame kFaceAlreadyExisted, db⟩ := if_neg h

/-- What `RegisterFeature` writes: `last_features_` and `FaceDataBase::features_vec_`. -/
structure FeatureStore where
  lastFeatures : List ℚ := []
  featuresVec : List (List ℚ) := []

/-- `FaceDetectorServer::RegisterFeature`. -/
def registerFeature (store : FeatureStore) (img : Mat) : Registration Mat FeatureStore :=
  match V.detectFaces img with
  -- the only exit of the three registrations that calls nobody
  | [] => ⟨-1, [], store⟩
  | topFace :: _ =>
      let features := V.extract img (V.detectPoints img topFace)
      ⟨-1, reportRegistered observers img kFaceAlreadyExisted,
        { lastFeatures := features, featuresVec := store.featuresVec ++ [features] }⟩

section Specs

variable {V observers} {users : List User} {img : Mat}

/-- Inversion of a monadic step. -/
theorem bind_eq_ok {α β ε : Type} {x : Except ε α} {f : α → Except ε β} {b : β}
    (h : (x >>= f) = .ok b) : ∃ a, x = .ok a ∧ f a = .ok b := by
  cases x with
  | error e => cases h
  | ok a => exact ⟨a, rfl, h⟩

/-- One pass of the loop keeps the greater of two scored users. -/
theorem recognizeBody_eq_ok {top top' : Similarity × User} {iter : User}
    (h : recognizeBody V img top iter = .ok top') :
    ∃ s, compareUser V img iter = .ok s ∧ top' = keepGreater top (s, iter) := by
  obtain ⟨s, hs, hret⟩ := bind_eq_ok h
  refine ⟨s, hs, ?_⟩
  by_cases hlt : top.1 < s
  · rw [if_pos hlt] at hret
    rw [keepGreater_of_lt hlt]
    exact (Except.ok.inj hret).symm
  · rw [if_neg hlt] at hret
    rw [keepGreater_of_not_lt hlt]
    exact (Except.ok.inj hret).symm

/-- A loop that ends normally is the running maximum of the scored users. -/
theorem recognizeLoop_eq_ok {start top : Similarity × User}
    (h : users.foldlM (recognizeBody V img) start = .ok top) :
    ∃ scored, List.Forall₂ (fun u p => compareUser V img u = .ok p.1 ∧ p.2 = u) users scored ∧
      top = runningMax start scored := by
  induction users generalizing start with
  | nil => exact ⟨[], .nil, (Except.ok.inj h).symm⟩
  | cons u users ih =>
      rw [List.foldlM_cons] at h
      obtain ⟨next, hbody, hrest⟩ := bind_eq_ok h
      obtain ⟨s, hs, rfl⟩ := recognizeBody_eq_ok hbody
      obtain ⟨scored, hscored, htop⟩ := ih hrest
      exact ⟨(s, u) :: scored, .cons ⟨hs, rfl⟩ hscored, htop⟩

theorem mem_of_scored {users : List User} {scored : List (Similarity × User)}
    (h : List.Forall₂ (fun u p => compareUser V img u = .ok p.1 ∧ p.2 = u) users scored)
    {p : Similarity × User} (hp : p ∈ scored) : p.2 ∈ users ∧ compareUser V img p.2 = .ok p.1 := by
  induction h with
  | nil => cases hp
  | cons hup _ ih =>
      rcases List.mem_cons.1 hp with rfl | hp
      · obtain ⟨hs, rfl⟩ := hup
        exact ⟨List.mem_cons_self, hs⟩
      · exact ⟨List.mem_cons_of_mem _ (ih hp).1, (ih hp).2⟩

theorem scored_of_mem {users : List User} {scored : List (Similarity × User)}
    (h : List.Forall₂ (fun u p => compareUser V img u = .ok p.1 ∧ p.2 = u) users scored)
    {u : User} (hu : u ∈ users) : ∃ s, compareUser V img u = .ok s ∧ (s, u) ∈ scored := by
  induction h with
  | nil => cases hu
  | @cons u' p _ _ hup _ ih =>
      rcases List.mem_cons.1 hu with rfl | hu
      · obtain ⟨hs, hp⟩ := hup
        exact ⟨p.1, hs, by rw [← hp]; exact List.mem_cons_self⟩
      · obtain ⟨s, hs, hmem⟩ := ih hu
        exact ⟨s, hs, List.mem_cons_of_mem _ hmem⟩

/-- What `RecognizeFaceFromDb` can answer: `-1` without a call when nobody is known, and otherwise a
cached user at `0.6` or more, written to `*info` and announced. -/
theorem recognizeFaceFromDb_cases {r : Recognition Mat}
    (h : recognizeFaceFromDb V observers users img = .ok r) :
    (¬ Known V users img ∧ r = ⟨-1, none, []⟩) ∨
      ∃ u ∈ users, Known V users img ∧
        r = ⟨u.id, some u, notifyAll observers (.onFaceRecognized img {} u.id)⟩ := by
  obtain ⟨top, hloop, hret⟩ := bind_eq_ok h
  obtain ⟨scored, hscored, htop⟩ := recognizeLoop_eq_ok hloop
  have hr : recognizeFinish observers img top = r := Except.ok.inj hret
  have hstart : (recognizeStart).1 < compareThreshold := zero_lt_compareThreshold
  rw [recognizeFinish] at hr
  by_cases hlow : top.1 < compareThreshold
  · rw [if_pos hlow] at hr
    refine Or.inl ⟨?_, hr.symm⟩
    rintro ⟨u, hu, s, hs, hle⟩
    obtain ⟨s', hs', hmem⟩ := scored_of_mem hscored hu
    have hss : s = s' := Except.ok.inj (hs.symm.trans hs')
    subst hss
    have hbest := le_runningMax_of_mem recognizeStart hmem
    rw [← htop] at hbest
    exact absurd hlow (not_lt_of_ge (le_trans hle hbest))
  · rw [if_neg hlow] at hr
    have hhigh : compareThreshold ≤ top.1 := le_of_not_gt hlow
    rw [htop] at hhigh
    have hmem := runningMax_mem (lt_of_lt_of_le hstart hhigh)
    obtain ⟨huser, hs⟩ := mem_of_scored hscored hmem
    refine Or.inr ⟨top.2, by rw [htop]; exact huser, ?_, hr.symm⟩
    exact ⟨_, huser, _, hs, hhigh⟩

/-- When recognition ends normally and nobody is known, every cached user was compared, below `0.6`. -/
theorem compareUser_lt_of_not_known {r : Recognition Mat}
    (h : recognizeFaceFromDb V observers users img = .ok r) (hnot : ¬ Known V users img) {u : User}
    (hu : u ∈ users) : ∃ s, compareUser V img u = .ok s ∧ s < compareThreshold := by
  obtain ⟨top, hloop, -⟩ := bind_eq_ok h
  obtain ⟨scored, hscored, -⟩ := recognizeLoop_eq_ok hloop
  obtain ⟨s, hs, -⟩ := scored_of_mem hscored hu
  refine ⟨s, hs, ?_⟩
  by_contra hle
  exact hnot ⟨u, hu, s, hs, le_of_not_gt hle⟩

/-- A loop over users all below `0.6` ends below `0.6`. -/
theorem recognizeLoop_of_low
    (h : ∀ u ∈ users, ∃ s, compareUser V img u = .ok s ∧ s < compareThreshold)
    {start : Similarity × User} (hstart : start.1 < compareThreshold) :
    ∃ top, users.foldlM (recognizeBody V img) start = .ok top ∧ top.1 < compareThreshold := by
  induction users generalizing start with
  | nil => exact ⟨start, rfl, hstart⟩
  | cons u users ih =>
      obtain ⟨s, hs, hlow⟩ := h u List.mem_cons_self
      have hrest := fun v hv => h v (List.mem_cons_of_mem _ hv)
      rw [List.foldlM_cons]
      by_cases hlt : start.1 < s
      · have hbody : recognizeBody V img start u = .ok (s, u) := by
          show (compareUser V img u >>= _) = _
          rw [hs]
          exact if_pos hlt
        rw [hbody]
        exact ih hrest hlow
      · have hbody : recognizeBody V img start u = .ok start := by
          show (compareUser V img u >>= _) = _
          rw [hs]
          exact if_neg hlt
        rw [hbody]
        exact ih hrest hstart

/-- When every cached user is below `0.6`, nobody is recognised. -/
theorem recognizeFaceFromDb_of_low
    (h : ∀ u ∈ users, ∃ s, compareUser V img u = .ok s ∧ s < compareThreshold) :
    recognizeFaceFromDb V observers users img = .ok ⟨-1, none, []⟩ := by
  have hstart : (recognizeStart).1 < compareThreshold := zero_lt_compareThreshold
  obtain ⟨top, htop, hlow⟩ := recognizeLoop_of_low h hstart
  rw [recognizeFaceFromDb, htop]
  show Except.ok (recognizeFinish observers img top) = _
  rw [recognizeFinish, if_pos hlow]

/-- With no cached user, nobody is recognised. -/
theorem recognizeFaceFromDb_nil :
    recognizeFaceFromDb V observers [] img = .ok ⟨-1, none, []⟩ :=
  recognizeFaceFromDb_of_low fun _ hu => absurd hu List.not_mem_nil

variable (V observers) in
/-- What `RegisterFace(frame)` can do. -/
theorem registerFace_cases (gallery : V.Gallery) (answer : Option Nat) (frame : Mat) :
    (V.Matched gallery frame ∧ registerFace V observers gallery answer frame =
        ⟨kFaceAlreadyExisted, reportRegistered observers frame kFaceAlreadyExisted, gallery⟩) ∨
      (¬ V.Matched gallery frame ∧ (V.detectFaces frame = [] ∨ answer = none) ∧
        registerFace V observers gallery answer frame =
          ⟨-1, reportRegistered observers frame kFaceNotDetected, gallery⟩) ∨
      ∃ e : Entry V.toSeetaModels, ¬ V.Matched gallery frame ∧ V.detectFaces frame ≠ [] ∧
        answer = some e.index ∧ e.image = frame ∧ registerFace V observers gallery answer frame =
          ⟨e.index, reportRegistered observers frame e.index, gallery ++ [e]⟩ := by
  have htest := V.query_test_iff gallery frame
  simp only [registerFace, registerFaceQuery]
  by_cases hm : V.Matched gallery frame
  · simp only [if_pos (htest.2 hm)]
    exact Or.inl ⟨hm, trivial⟩
  · simp only [if_neg (fun h => hm (htest.1 h)), registerFaceInsert]
    rcases V.register_cases answer gallery frame with ⟨hwhy, hreg⟩ | ⟨e, hdet, hans, himg, hreg⟩
    · refine Or.inr (Or.inl ⟨hm, hwhy, ?_⟩)
      simp only [hreg, if_true]
    · refine Or.inr (Or.inr ⟨e, hm, hdet, hans, himg, ?_⟩)
      have hne : (e.index : Int) ≠ -1 := by omega
      simp only [hreg, if_neg hne]

/-- What `RegisterFace(frame, user)` can do to the table and the cache: leave them, when no face is
detected or a cached user is known, or insert and reload. A user known under the id `-1` is inserted
all the same. -/
theorem registerUser_cases {db : FaceDataBase} {exec : Option { id : Int // db.tbUser.Fresh id }}
    {select : Bool} {frame : Mat} {user : User} {result : Registration Mat FaceDataBase}
    (h : registerUser V observers db exec select frame user = .ok result) :
    ((V.detectFaces frame = [] ∨ Known V db.users frame) ∧ result.store = db) ∨
      V.detectFaces frame ≠ [] ∧
        ((∀ u ∈ db.users, ∃ s, compareUser V frame u = .ok s ∧ s < compareThreshold) ∨
          ∃ u ∈ db.users, u.id = -1) ∧
        result.store = (db.addUser V exec user.nickName user.email
          (V.matToQimage frame)).2.loadToCache select := by
  rw [registerUser] at h
  split at h
  · next hdet =>
      cases h
      exact Or.inl ⟨Or.inl hdet, rfl⟩
  · next face rest hdet =>
      have hface : V.detectFaces frame ≠ [] := by
        rw [hdet]
        exact List.cons_ne_nil face rest
      obtain ⟨found, hfound, hret⟩ := bind_eq_ok h
      cases hret
      rcases recognizeFaceFromDb_cases hfound with ⟨hnot, rfl⟩ | ⟨u, hu, hknown, rfl⟩
      · refine Or.inr ⟨hface, Or.inl fun u hu => compareUser_lt_of_not_known hfound hnot hu, ?_⟩
        simp only [registerUserInsert, if_true]
      · by_cases hid : u.id = -1
        · refine Or.inr ⟨hface, Or.inr ⟨u, hu, hid⟩, ?_⟩
          simp only [registerUserInsert, if_pos hid]
        · refine Or.inl ⟨Or.inr hknown, ?_⟩
          simp only [registerUserInsert, if_neg hid]

end Specs

end ArmFaceID.Server
