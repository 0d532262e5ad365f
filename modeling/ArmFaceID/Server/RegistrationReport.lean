import ArmFaceID.Server.BestUser

/-!
# What a registration reports

The reporting contract the GUI's switch relies on: every observer gets one `OnFaceRegistered`, with
a code that tells what the attempt did, no `OnFaceRecognized`, and the caller gets the same code.
`Attempt` says what an attempt did, read off the inputs and the store before and after;
`Reported` compares that with what was announced.

`RegisterFace(frame)` meets the contract except when the engine fails to store a new face.
`RegisterFace(frame, user)` meets it only when no face is detected, or, by accident, when nobody
observes and the user recognised is cached under `-2`. `RegisterFeature` meets it only when no face is
detected and nobody observes (`registration_reported_iff`).
-/

set_option autoImplicit false

namespace ArmFaceID.Server

open ArmFaceID.Library

variable {Mat QImage : Type}

/-! ## The contract -/

theorem codes_ne : kFaceNotDetected ≠ kFaceAlreadyExisted := by decide

/-- What an attempt to register did. -/
structure Attempt where
  faceDetected : Prop
  matched : Prop
  storedAs : Int → Prop
  nothingStored : Prop

/-- The code tells what the attempt did. A code other than the two constants is an id, and the GUI
announces success on it. -/
structure Attempt.Tells (a : Attempt) (code : Int) : Prop where
  notDetected : code = kFaceNotDetected ↔ ¬ a.faceDetected
  alreadyExisted : code = kFaceAlreadyExisted ↔ a.matched ∧ a.nothingStored
  stored : code ≠ kFaceNotDetected → code ≠ kFaceAlreadyExisted → a.storedAs code

/-- The observers called with `OnFaceRegistered`, with the codes passed. -/
def registeredCodes (calls : List (Notification Mat Int)) : List (Observer × Int) :=
  calls.filterMap fun n =>
    match n with
    | (o, .onFaceRegistered _ _ code) => some (o, code)
    | _ => none

/-- The observers called with `OnFaceRecognized`, with the ids passed. -/
def recognizedIds (calls : List (Notification Mat Int)) : List (Observer × Int) :=
  calls.filterMap fun n =>
    match n with
    | (o, .onFaceRecognized _ _ id) => some (o, id)
    | _ => none

/-- The reporting contract, for the value returned and the calls made. -/
def Reported (observers : List Observer) (a : Attempt) (id : Int)
    (calls : List (Notification Mat Int)) : Prop :=
  ∃ code, a.Tells code ∧ id = code ∧ registeredCodes calls = observers.map (fun o => (o, code)) ∧
    recognizedIds calls = []

@[simp] theorem registeredCodes_reportRegistered (observers : List Observer) (frame : Mat)
    (code : Int) :
    registeredCodes (reportRegistered observers frame code) = observers.map fun o => (o, code) := by
  simp only [registeredCodes, reportRegistered, notifyAll]
  induction observers with
  | nil => rfl
  | cons o os ih => simp

@[simp] theorem recognizedIds_reportRegistered (observers : List Observer) (frame : Mat)
    (code : Int) : recognizedIds (reportRegistered observers frame code) = [] := by
  simp only [recognizedIds, reportRegistered, notifyAll]
  induction observers with
  | nil => rfl
  | cons o os ih => simp

theorem recognizedIds_append (calls calls' : List (Notification Mat Int)) :
    recognizedIds (calls ++ calls') = recognizedIds calls ++ recognizedIds calls' :=
  List.filterMap_append

@[simp] theorem recognizedIds_notifyAll (observers : List Observer) (frame : Mat) (face : Rect)
    (id : Int) : recognizedIds (notifyAll observers (.onFaceRecognized frame face id)) =
      observers.map fun o => (o, id) := by
  simp only [recognizedIds, notifyAll]
  induction observers with
  | nil => rfl
  | cons o os ih => simp

/-- A report of the code returned meets the contract when the code tells the attempt. -/
theorem reported_of_tells {observers : List Observer} {a : Attempt} {code : Int} (frame : Mat)
    (h : a.Tells code) : Reported observers a code (reportRegistered observers frame code) :=
  ⟨code, h, rfl, by simp, by simp⟩

/-! ## `RegisterFace(frame)` -/

section Gallery

variable (V : Vision Mat QImage) (observers : List Observer)

/-- What `RegisterFace(frame)` did to SeetaFace's database. -/
def galleryAttempt (gallery : V.Gallery) (frame : Mat) (after : V.Gallery) : Attempt where
  faceDetected := V.detectFaces frame ≠ []
  matched := V.Matched gallery frame
  storedAs id := ∃ e : Entry V.toSeetaModels,
    after = gallery ++ [e] ∧ e.image = frame ∧ (e.index : Int) = id
  nothingStored := after = gallery

/-- `RegisterFace(frame)` meets the contract. -/
def RegisterFaceReported (gallery : V.Gallery) (answer : Option Nat) (frame : Mat) : Prop :=
  let r := registerFace V observers gallery answer frame
  Reported observers (galleryAttempt V gallery frame r.store) r.id r.calls

/-- The one exit that breaks the contract: the engine refuses a new face, and `-1` is reported
although a face was detected. -/
theorem registerFace_reported_iff (gallery : V.Gallery) (answer : Option Nat) (frame : Mat) :
    RegisterFaceReported V observers gallery answer frame ↔
      ¬ (V.detectFaces frame ≠ [] ∧ ¬ V.Matched gallery frame ∧ answer = none) := by
  rw [RegisterFaceReported]
  rcases registerFace_cases V observers gallery answer frame with
    ⟨hm, hr⟩ | ⟨hm, hwhy, hr⟩ | ⟨e, hm, hdet, hans, himg, hr⟩
  · -- the face is registered already
    rw [hr]
    have hdet : V.detectFaces frame ≠ [] := fun h => V.not_matched_of_no_face h hm
    refine iff_of_true (reported_of_tells frame ⟨?_, ?_, ?_⟩) (by simp [hm])
    · exact iff_of_false codes_ne.symm (not_not.2 hdet)
    · exact iff_of_true rfl ⟨hm, rfl⟩
    · exact fun _ h => absurd rfl h
  · rw [hr]
    by_cases hdet : V.detectFaces frame = []
    · -- no face
      refine iff_of_true (reported_of_tells frame ⟨?_, ?_, ?_⟩) (by simp [hdet])
      · exact iff_of_true rfl (not_not.2 hdet)
      · exact iff_of_false codes_ne (fun h => hm h.1)
      · exact fun h _ => absurd rfl h
    · -- the insertion failed
      refine iff_of_false ?_ (not_not.2 ⟨hdet, hm, hwhy.resolve_left hdet⟩)
      rintro ⟨code, htells, rfl, -, -⟩
      exact htells.notDetected.1 rfl hdet
  · -- a new entry
    rw [hr]
    have hpos : (0 : Int) ≤ e.index := Int.natCast_nonneg _
    refine iff_of_true (reported_of_tells frame ⟨?_, ?_, ?_⟩) (by simp [hans])
    · refine iff_of_false ?_ (not_not.2 hdet)
      show (e.index : Int) ≠ -1
      omega
    · refine iff_of_false ?_ (fun h => hm h.1)
      show (e.index : Int) ≠ -2
      omega
    · exact fun _ _ => ⟨e, rfl, himg, rfl⟩

end Gallery

/-! ## `RegisterFace(frame, user)` -/

section Table

variable (V : Vision Mat QImage) (observers : List Observer)

/-- What `RegisterFace(frame, user)` did to the table. -/
def tableAttempt (db : FaceDataBase) (frame : Mat) (after : FaceDataBase) : Attempt where
  faceDetected := V.detectFaces frame ≠ []
  matched := Known V db.users frame
  storedAs id := ∃ row, after.tbUser.rows = db.tbUser.rows ++ [row] ∧ row.userId = id
  nothingStored := after.tbUser.rows = db.tbUser.rows

/-- `RegisterFace(frame, user)` ends normally and meets the contract. -/
def RegisterUserReported (db : FaceDataBase) (exec : Option { id : Int // db.tbUser.Fresh id })
    (select : Bool) (frame : Mat) (user : User) : Prop :=
  ∃ r, registerUser V observers db exec select frame user = .ok r ∧
    Reported observers (tableAttempt V db frame r.store) r.id r.calls

/-- Every cached user can be compared, and the first of greatest similarity, at `0.6` or more, is
cached under this id. -/
def BestCachedAs (V : Vision Mat QImage) (users : List User) (frame : Mat) (id : Int) : Prop :=
  Similarities V users frame (similarityTo V frame) ∧
    ∃ u, firstBest (similarityTo V frame) compareThreshold users = some u ∧ u.id = id

variable {V observers} in
theorem known_of_best {users : List User} {frame : Mat} {id : Int}
    (h : BestCachedAs V users frame id) : Known V users frame := by
  obtain ⟨hsim, u, hbest, -⟩ := h
  obtain ⟨⟨before, after, hsplit, -⟩, hle⟩ := firstBest_eq_some hbest
  have hu : u ∈ users := by
    rw [hsplit]
    exact List.mem_append_right _ List.mem_cons_self
  exact ⟨u, hu, _, hsim u hu, hle⟩

/-- Without a face the report is right. -/
theorem registerUser_reported_of_no_face {db : FaceDataBase}
    (exec : Option { id : Int // db.tbUser.Fresh id }) (select : Bool) {frame : Mat} (user : User)
    (hdet : V.detectFaces frame = []) :
    RegisterUserReported V observers db exec select frame user := by
  refine ⟨_, by rw [registerUser, hdet], reported_of_tells frame ⟨?_, ?_, ?_⟩⟩
  · exact iff_of_true rfl (not_not.2 hdet)
  · refine iff_of_false codes_ne ?_
    rintro ⟨⟨u, -, s, hs, hle⟩, -⟩
    obtain ⟨decoded, -, hret⟩ := bind_eq_ok hs
    rw [V.compare_of_no_face hdet] at hret
    have hzero : (0 : Similarity) = s := Except.ok.inj hret
    rw [← hzero] at hle
    exact absurd zero_lt_compareThreshold (not_lt_of_ge hle)
  · exact fun h _ => absurd rfl h

/-- With nobody to call, the id `-2` of the user recognised is taken for the code. -/
theorem registerUser_reported_of_best {db : FaceDataBase}
    (exec : Option { id : Int // db.tbUser.Fresh id }) (select : Bool) {frame : Mat} (user : User)
    (hface : V.detectFaces frame ≠ []) (hbest : BestCachedAs V db.users frame kFaceAlreadyExisted) :
    RegisterUserReported V [] db exec select frame user := by
  have hknown : Known V db.users frame := known_of_best hbest
  obtain ⟨hsim, u, hfirst, hid⟩ := hbest
  have hfound := recognizeFaceFromDb_eq_firstBest [] hsim
  rw [hfirst] at hfound
  cases hdet : V.detectFaces frame with
  | nil => exact absurd hdet hface
  | cons face rest =>
      have hne : u.id ≠ -1 := by
        rw [hid]
        decide
      refine ⟨⟨u.id, [], db⟩, ?_, kFaceAlreadyExisted, ⟨?_, ?_, ?_⟩, hid, rfl, rfl⟩
      · have hinsert := registerUserInsert_of_ne V [] db exec select frame user hne
        rw [registerUser, hdet, hfound]
        show Except.ok { registerUserInsert V [] db exec select frame user u.id with
          calls := [] ++ (registerUserInsert V [] db exec select frame user u.id).calls } = _
        rw [hinsert]
        rfl
      · exact iff_of_false codes_ne.symm (not_not.2 hface)
      · exact iff_of_true rfl ⟨hknown, rfl⟩
      · exact fun _ h => absurd rfl h

/-- Every exit after detection breaks the contract: on a match the matched id is returned, and
otherwise the `-1` of the recognition, whatever the insertion did. Only a matched id that happens to
be the code for a match passes, when nobody is told of the recognition. -/
theorem registerUser_reported_iff (db : FaceDataBase)
    (exec : Option { id : Int // db.tbUser.Fresh id }) (select : Bool) (frame : Mat) (user : User) :
    RegisterUserReported V observers db exec select frame user ↔
      V.detectFaces frame = [] ∨
        (observers = [] ∧ BestCachedAs V db.users frame kFaceAlreadyExisted) := by
  by_cases hface : V.detectFaces frame = []
  · exact iff_of_true (registerUser_reported_of_no_face V observers exec select user hface)
      (Or.inl hface)
  constructor
  · rintro ⟨r, hr, code, htells, hid, -, hnobody⟩
    refine Or.inr ?_
    cases hdet : V.detectFaces frame with
    | nil => exact absurd hdet hface
    | cons face rest =>
        rw [registerUser, hdet] at hr
        obtain ⟨found, hfound, hret⟩ := bind_eq_ok hr
        have hr' : { registerUserInsert V observers db exec select frame user found.id with
            calls := found.calls ++ (registerUserInsert V observers db exec select frame user
              found.id).calls } = r := Except.ok.inj hret
        have hsim := similarities_of_ok hfound
        have hbest := recognizeFaceFromDb_eq_firstBest observers hsim
        rw [hfound] at hbest
        obtain rfl := Except.ok.inj hbest
        subst hr'
        cases hfirst : firstBest (similarityTo V frame) compareThreshold db.users with
        | none =>
            -- nobody known: `-1` is returned although a face was detected
            rw [hfirst] at hid
            have hcode : (-1 : Int) = code := by
              simpa [registerUserInsert, recognitionOf] using hid
            exact absurd hface (htells.notDetected.1 hcode.symm)
        | some u =>
            rw [hfirst] at hid htells hnobody
            by_cases hne : u.id = -1
            · -- the same, with a user cached under `-1`
              have hcode : (-1 : Int) = code := by
                simpa [registerUserInsert, recognitionOf, hne] using hid
              exact absurd hface (htells.notDetected.1 hcode.symm)
            · -- a match: the matched id is returned, and nothing was stored under it
              have hinsert := registerUserInsert_of_ne V observers db exec select frame user hne
              simp only [recognitionOf, hinsert] at hid htells hnobody
              subst hid
              have hcode : u.id = kFaceAlreadyExisted := by
                by_contra hother
                obtain ⟨row, hrows, -⟩ := htells.stored hne hother
                have hlen := congrArg List.length hrows
                simp at hlen
              rw [recognizedIds_append, recognizedIds_notifyAll, List.append_eq_nil_iff] at hnobody
              exact ⟨List.map_eq_nil_iff.1 hnobody.1, hsim, u, hfirst, hcode⟩
  · rintro (hnone | ⟨rfl, hbest⟩)
    · exact absurd hnone hface
    · exact registerUser_reported_of_best V exec select user hface hbest

end Table

/-! ## `RegisterFeature` -/

section Features

variable (V : Vision Mat QImage) (observers : List Observer)

/-- What `RegisterFeature` did to the stored features; an id is a position among them. -/
def featureAttempt (store : FeatureStore) (img : Mat) (after : FeatureStore) : Attempt where
  faceDetected := V.detectFaces img ≠ []
  matched := False
  storedAs id := ∃ features, after.featuresVec = store.featuresVec ++ [features] ∧
    (store.featuresVec.length : Int) = id
  nothingStored := after.featuresVec = store.featuresVec

/-- `RegisterFeature` meets the contract. -/
def RegisterFeatureReported (store : FeatureStore) (img : Mat) : Prop :=
  let r := registerFeature V observers store img
  Reported observers (featureAttempt V store img r.store) r.id r.calls

/-- Without a face nobody is called; with one, `-1` is returned. -/
theorem registerFeature_reported_iff (store : FeatureStore) (img : Mat) :
    RegisterFeatureReported V observers store img ↔ V.detectFaces img = [] ∧ observers = [] := by
  simp only [RegisterFeatureReported, registerFeature]
  cases hdet : V.detectFaces img with
  | nil =>
      constructor
      · rintro ⟨code, -, -, hcalls, -⟩
        exact ⟨rfl, List.map_eq_nil_iff.1 hcalls.symm⟩
      · rintro ⟨-, rfl⟩
        refine ⟨-1, ⟨?_, ?_, ?_⟩, rfl, rfl, rfl⟩
        · exact iff_of_true rfl (not_not.2 hdet)
        · exact iff_of_false codes_ne (fun h => h.1)
        · exact fun h _ => absurd rfl h
  | cons face rest =>
      refine iff_of_false ?_ (fun h => List.cons_ne_nil face rest h.1)
      have hface : V.detectFaces img ≠ [] := by
        rw [hdet]
        exact List.cons_ne_nil face rest
      rintro ⟨code, htells, rfl, -, -⟩
      exact htells.notDetected.1 rfl hface

end Features

/-- **When the three registrations meet the reporting contract.** -/
theorem registration_reported_iff (V : Vision Mat QImage) (observers : List Observer) :
    (∀ (gallery : V.Gallery) (answer : Option Nat) (frame : Mat),
      RegisterFaceReported V observers gallery answer frame ↔
        ¬ (V.detectFaces frame ≠ [] ∧ ¬ V.Matched gallery frame ∧ answer = none)) ∧
    (∀ (db : FaceDataBase) (exec : Option { id : Int // db.tbUser.Fresh id }) (select : Bool)
      (frame : Mat) (user : User),
      RegisterUserReported V observers db exec select frame user ↔
        V.detectFaces frame = [] ∨
          (observers = [] ∧ BestCachedAs V db.users frame kFaceAlreadyExisted)) ∧
    (∀ (store : FeatureStore) (img : Mat),
      RegisterFeatureReported V observers store img ↔
        V.detectFaces img = [] ∧ observers = []) :=
  ⟨registerFace_reported_iff V observers, registerUser_reported_iff V observers,
    registerFeature_reported_iff V observers⟩

/-- One observer and an empty table: a failed insertion is announced as `999`, which the GUI takes
for success; a frame without a face ends `RegisterFeature` without a call. -/
theorem registration_not_reported :
    ((registerUser sampleVision [7] {} none true 2 { nickName := "Ann" }).toOption.map
        fun r => (r.id, r.calls, r.store.tbUser.rows)) =
      some (-1, [(7, .onFaceRegistered 2 {} 999)], []) ∧
    ¬ RegisterUserReported sampleVision [7] {} none true 2 { nickName := "Ann" } ∧
    (registerFeature sampleVision [7] {} 1).calls = [] ∧
    ¬ RegisterFeatureReported sampleVision [7] {} 1 := by
  refine ⟨by decide +kernel, ?_, by decide, ?_⟩
  · rw [registerUser_reported_iff]
    rintro (hface | ⟨hnobody, -⟩)
    · exact absurd hface (by decide)
    · exact absurd hnobody (by decide)
  · rw [registerFeature_reported_iff]
    decide

end ArmFaceID.Server
