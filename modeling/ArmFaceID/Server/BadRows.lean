import ArmFaceID.Server.BestUser
import ArmFaceID.Server.RpcManager

/-!
# Rows without an image

`AddUser` does not look at the result of `QImage::save`, so a null image leaves a row whose
`face_img` is empty. `cv::imdecode` throws on it, inside the loop over the cached users, and from
then on recognition ends in the exception for everybody. Bytes that are not an image do no harm: the
empty matrix shows no face and compares with `0`. So bad rows are confined exactly when no user was
stored with nothing to save (`badRowsConfined_iff`).
-/

set_option autoImplicit false

namespace ArmFaceID.Server

open ArmFaceID.Library

variable {Mat QImage : Type} (V : Vision Mat QImage) (observers : List Observer)

/-- What is assumed of `cv::imdecode` and of the face detector: an empty buffer throws, any other is
answered, with an empty matrix if the bytes are not an image, and an empty matrix shows no face. -/
structure DecodingLaws : Prop where
  throws : ∀ mode, V.imdecode mode [] = .error .cvError
  returns : ∀ mode bytes, bytes ≠ [] → ∃ image, V.imdecode mode bytes = .ok image
  empty_no_face : ∀ image, V.isEmpty image = true → V.detectFaces image = []

/-- The stored bytes are an image. -/
def storedImage (u : User) : Bool :=
  match V.imdecode .unchanged u.faceImgBytes with
  | .ok image => !V.isEmpty image
  | .error _ => false

/-- Recognition and the existence check end normally on every image, and answer what they answer on
the users whose bytes are an image. -/
structure BadRowsConfined (users : List User) : Prop where
  recognize : ∀ img, ∃ r, recognizeFaceFromDb V observers users img = .ok r ∧
    recognizeFaceFromDb V observers (users.filter (storedImage V)) img = .ok r
  exist : ∀ img indeterminate, ∃ e, isAlreadyExistInDB V users img indeterminate = .ok e ∧
    isAlreadyExistInDB V (users.filter (storedImage V)) img indeterminate = .ok e

section Loop

variable {V observers} {users : List User} {img : Mat}

theorem compare_eq_zero_of_no_face {image : Mat} (h : V.detectFaces image = []) :
    V.compare img image = 0 := by
  simp only [FaceEngine.compare]
  split
  · rfl
  · split
    · rfl
    · next face rest hdet =>
        rw [h] at hdet
        cases hdet

/-- Bytes that are not empty are compared, with `0` if they are not an image. -/
theorem compareUser_of_ne_nil (laws : DecodingLaws V) {u : User} (h : u.faceImgBytes ≠ []) :
    compareUser V img u = .ok (similarityTo V img u) ∧
      (storedImage V u = false → similarityTo V img u = 0) := by
  obtain ⟨image, himage⟩ := laws.returns .unchanged u.faceImgBytes h
  have hcompare : compareUser V img u = .ok (V.compare img image) := by
    simp only [compareUser, himage]
    rfl
  have hsim : similarityTo V img u = V.compare img image := by
    simp only [similarityTo, hcompare]
  refine ⟨by rw [hsim, hcompare], ?_⟩
  intro hbad
  simp only [storedImage, himage, Bool.not_eq_false'] at hbad
  rw [hsim, compare_eq_zero_of_no_face (laws.empty_no_face image hbad)]

theorem compareUser_nil (laws : DecodingLaws V) {u : User} (h : u.faceImgBytes = []) :
    compareUser V img u = .error .cvError := by
  simp only [compareUser, h, laws.throws]
  rfl

variable (img) in
/-- The loop passes over bytes that are not an image: `0` beats nothing. -/
theorem recognizeLoop_filter (laws : DecodingLaws V) (h : ∀ u ∈ users, u.faceImgBytes ≠ []) :
    ∃ top, users.foldlM (recognizeBody V img) recognizeStart = .ok top ∧
      (users.filter (storedImage V)).foldlM (recognizeBody V img) recognizeStart = .ok top := by
  let sim := similarityTo V img
  have hsim : Similarities V users img sim := fun u hu =>
    (compareUser_of_ne_nil laws (h u hu)).1
  have hsim' : Similarities V (users.filter (storedImage V)) img sim := fun u hu =>
    hsim u (List.mem_of_mem_filter hu)
  refine ⟨_, recognizeLoop_eq hsim recognizeStart, ?_⟩
  rw [recognizeLoop_eq hsim']
  have hmap : (users.filter (storedImage V)).map (fun u => (sim u, u)) =
      (users.map fun u => (sim u, u)).filter fun p => storedImage V p.2 := by
    rw [List.filter_map]
    rfl
  rw [hmap, runningMax_filter]
  intro p hp hbad
  obtain ⟨u, hu, rfl⟩ := List.mem_map.1 hp
  exact le_of_eq ((compareUser_of_ne_nil laws (h u hu)).2 hbad)

/-- Bad rows are confined exactly when none of them is empty. -/
theorem badRowsConfined_iff_users (laws : DecodingLaws V) :
    BadRowsConfined V observers users ↔ ∀ u ∈ users, u.faceImgBytes ≠ [] := by
  constructor
  · intro h u hu hempty
    obtain ⟨r, hr, -⟩ := h.recognize V.noMat
    have hok := similarities_of_ok hr u hu
    rw [compareUser_nil laws hempty] at hok
    cases hok
  · intro h
    have hrec : ∀ img, ∃ r, recognizeFaceFromDb V observers users img = .ok r ∧
        recognizeFaceFromDb V observers (users.filter (storedImage V)) img = .ok r := by
      intro img
      obtain ⟨top, hloop, hloop'⟩ := recognizeLoop_filter img laws h
      exact ⟨recognizeFinish observers img top, by rw [recognizeFaceFromDb, hloop]; rfl,
        by rw [recognizeFaceFromDb, hloop']; rfl⟩
    refine ⟨hrec, ?_⟩
    intro img indeterminate
    obtain ⟨r, hr, hr'⟩ := hrec img
    refine ⟨⟨r.info.isSome, r.info, []⟩, ?_, ?_⟩
    · rw [isAlreadyExistInDB_eq V observers, hr]
      rfl
    · rw [isAlreadyExistInDB_eq V observers, hr']
      rfl

end Loop

/-! ## The rows that calls of `AddUser` leave -/

/-- A call of `AddUser` with the outcome of its `INSERT`. -/
structure AddUserCall (QImage : Type) where
  nickName : String
  email : String
  faceImg : QImage
  exec : Option Int

/-- One call. -/
def addUserStep (db : FaceDataBase) (c : AddUserCall QImage) : Option FaceDataBase :=
  (freshExec db.tbUser c.exec).map fun exec => (db.addUser V exec c.nickName c.email c.faceImg).2

/-- What the call writes to `face_img`, if it writes a row. -/
def AddUserCall.written (c : AddUserCall QImage) : Option Bytes :=
  c.exec.map fun _ => V.saveJpeg c.faceImg

section Rows

variable {V observers} {start db : FaceDataBase} {calls : List (AddUserCall QImage)}

theorem addUserStep_rows {db' : FaceDataBase} {c : AddUserCall QImage}
    (h : addUserStep V db c = some db') :
    db'.tbUser.rows.map UserRow.faceImg =
      db.tbUser.rows.map UserRow.faceImg ++ (c.written V).toList := by
  obtain ⟨exec, hexec, rfl⟩ := Option.map_eq_some_iff.1 h
  cases hc : c.exec with
  | none =>
      rw [hc, freshExec] at hexec
      cases hexec
      simp [FaceDataBase.addUser, AddUserCall.written, hc]
  | some id =>
      rw [hc, freshExec] at hexec
      split at hexec
      · cases hexec
        simp [AddUserCall.written, hc]
      · cases hexec

/-- Each row that calls leave holds what one of them wrote. -/
theorem rows_of_calls (hstart : start.tbUser.rows = []) (h : Run (addUserStep V) start calls db) :
    db.tbUser.rows.map UserRow.faceImg = calls.filterMap (AddUserCall.written V) := by
  induction h with
  | nil => rw [hstart, List.map_nil, List.filterMap_nil]
  | snoc _ hstep ih =>
      rw [addUserStep_rows hstep, ih, List.filterMap_append, List.filterMap_cons]
      split <;> simp_all

variable (V observers) in
/-- After calls of `AddUser` on an empty table and a reload, rows that are not images are confined
exactly when every call that stored a user had an image to save. -/
theorem badRowsConfined_iff (laws : DecodingLaws V) (hstart : start.tbUser.rows = [])
    (h : Run (addUserStep V) start calls db) :
    BadRowsConfined V observers (db.loadToCache true).users ↔
      ∀ c ∈ calls, c.exec ≠ none → V.saveJpeg c.faceImg ≠ [] := by
  rw [badRowsConfined_iff_users laws, FaceDataBase.loadToCache_users]
  have hrows := rows_of_calls hstart h
  have hempty : (∀ u ∈ db.tbUser.rows.map UserRow.cached, u.faceImgBytes ≠ []) ↔
      [] ∉ db.tbUser.rows.map UserRow.faceImg := by
    simp [UserRow.cached, User.narrowed, UserRow.toUser]
  rw [hempty, hrows, List.mem_filterMap]
  constructor
  · intro hnone c hc hexec hsave
    obtain ⟨id, hid⟩ := Option.ne_none_iff_exists'.1 hexec
    exact hnone ⟨c, hc, by rw [AddUserCall.written, hid, Option.map_some, hsave]⟩
  · rintro hall ⟨c, hc, hwritten⟩
    obtain ⟨id, hid, hsave⟩ := Option.map_eq_some_iff.1 hwritten
    exact hall c hc (by rw [hid]; exact Option.some_ne_none id) hsave

end Rows

/-! ## Runs on fixed inputs -/

theorem sampleVision_decodingLaws : DecodingLaws sampleVision where
  throws _ := rfl
  returns mode bytes h := by
    cases bytes with
    | nil => exact absurd rfl h
    | cons b bytes => exact ⟨b.toNat, rfl⟩
  empty_no_face image h := by
    have hzero : image = 0 := eq_of_beq h
    rw [hzero]
    rfl

/-- Two users; the bytes stored for the second are not an image. -/
def callsWithJunk : List (AddUserCall Nat) := [⟨"Ann", "", 2, some 1⟩, ⟨"Bob", "", 0, some 2⟩]

theorem junk_confined : ∃ db, Run (addUserStep sampleVision) {} callsWithJunk db ∧
    (BadRowsConfined sampleVision [] (db.loadToCache true).users ↔
      ∀ c ∈ callsWithJunk, c.exec ≠ none → sampleVision.saveJpeg c.faceImg ≠ []) := by
  have hrun : Run (addUserStep sampleVision) {} callsWithJunk _ := .snoc (.snoc .nil rfl) rfl
  exact ⟨_, hrun, badRowsConfined_iff sampleVision [] sampleVision_decodingLaws rfl hrun⟩

/-- The sample in which image 0 is a null image: saving it writes nothing. -/
def nullVision : Vision Nat Nat :=
  { sampleVision with saveJpeg := fun image => if image = 0 then [] else [UInt8.ofNat image] }

/-- A user added with the image of an empty matrix ends recognition for the user before. -/
theorem null_image_stops_recognition :
    DecodingLaws nullVision ∧ ∃ db, Run (addUserStep nullVision) {}
        [⟨"Ann", "", 2, some 1⟩, ⟨"Bob", "", nullVision.matToQimage nullVision.noMat, some 2⟩] db ∧
      ¬ BadRowsConfined nullVision [] (db.loadToCache true).users := by
  obtain ⟨hthrows, hreturns, hface⟩ := sampleVision_decodingLaws
  refine ⟨⟨hthrows, hreturns, hface⟩, _, .snoc (.snoc .nil rfl) rfl, ?_⟩
  intro h
  obtain ⟨r, hr, -⟩ := h.recognize 2
  cases hr

end ArmFaceID.Server
