import ArmFaceID.Server.BestUser
import ArmFaceID.Server.CacheCoherence

/-!
# A user just registered

`RegisterFace(frame, user)` appends one row and reloads the cache, so the new user comes last in the
loop of recognition and wins only against strictly smaller similarities. Recognition afterwards
gives the new user to exactly these images, and to all others what it gave before, provided that all
bytes stored can be decoded and that ids fit an `int` (`new_user_recognised_iff`). A frame that
`mat_to_qimage` has no picture for leaves nothing to decode, and recognition throws from then on.
-/

set_option autoImplicit false

namespace ArmFaceID.Server

open ArmFaceID.Library

variable {Mat QImage : Type} (V : Vision Mat QImage) (observers : List Observer)

/-- The entry of the cache for a user registered under `id` with `frame`. -/
def newUser (id : Int) (frame : Mat) (user : User) : User :=
  { id := id, nickName := user.nickName, email := user.email
    faceImgBytes := V.saveJpeg (V.matToQimage frame) }

/-- The new user's similarity is at least `0.6` and greater than every old user's. -/
def BeatsAll (sim : User → Similarity) (users : List User) (new : User) : Prop :=
  compareThreshold ≤ sim new ∧ ∀ u ∈ users, sim u < sim new

/-- Everybody's stored bytes can be decoded. -/
def AllDecode (users : List User) : Prop :=
  ∀ u ∈ users, ∃ decodedMat, V.imdecode .unchanged u.faceImgBytes = .ok decodedMat

/-- What the registration of a new face under the id of its row promises: the cache gets one entry
with that id and the data given; recognition then gives this entry to exactly the images whose
similarity to it is at least `0.6` and greater than to every old user, and to all others what it gave
before. -/
def NewUserRecognised (db : FaceDataBase) (id : { id : Int // db.tbUser.Fresh id }) (frame : Mat)
    (user : User) : Prop :=
  ∃ result, registerUser V observers db (some id) true frame user = .ok result ∧
    result.store.users = db.users ++ [newUser V id.1 frame user] ∧
    (∀ u ∈ db.users, u.id ≠ id.1) ∧
    ∀ probe info, ∃ r r', recognizeFaceFromDb V observers db.users probe = .ok r ∧
      recognizeFaceFromDb V observers result.store.users probe = .ok r' ∧
      ((r'.id = id.1 ∧ writeInfo (some info) r'.info = some (newUser V id.1 frame user)) ↔
        BeatsAll (similarityTo V probe) db.users (newUser V id.1 frame user)) ∧
      (¬ BeatsAll (similarityTo V probe) db.users (newUser V id.1 frame user) → r' = r)

section Register

variable {V observers} {db : FaceDataBase} {frame : Mat} {user : User}

/-- An image is compared with whoever's stored bytes can be decoded. -/
theorem similarities_of_allDecode {users : List User} (h : AllDecode V users) (img : Mat) :
    Similarities V users img (similarityTo V img) := by
  intro u hu
  obtain ⟨decodedMat, hdec⟩ := h u hu
  have hcompare : compareUser V img u = .ok (V.compare img decodedMat) := by
    simp only [compareUser, hdec]
    rfl
  rw [similarityTo, hcompare]

/-- A recognition that ends normally has decoded all bytes. -/
theorem allDecode_of_ok {users : List User} {img : Mat} {r : Recognition Mat}
    (h : recognizeFaceFromDb V observers users img = .ok r) : AllDecode V users := by
  intro u hu
  obtain ⟨decodedMat, hdec, -⟩ := bind_eq_ok (similarities_of_ok h u hu)
  exact ⟨decodedMat, hdec⟩

theorem newFace_of_not_known {users : List User} (hface : V.detectFaces frame ≠ [])
    (hnot : ¬ Known V users frame) (hdec : AllDecode V users) : NewFace V users frame := by
  refine ⟨hface, ?_⟩
  intro u hu
  have hsim := similarities_of_allDecode hdec frame u hu
  exact ⟨_, hsim, lt_of_not_ge fun hle => hnot ⟨u, hu, _, hsim, hle⟩⟩

/-- The rows with the new one, as users. -/
theorem map_toUser_insert (hco : db.Coherent) (id : { id : Int // db.tbUser.Fresh id }) :
    (db.addUser V (some id) user.nickName user.email (V.matToQimage frame)).2.tbUser.rows.map
      UserRow.toUser = db.users ++ [newUser V id.1 frame user] := by
  rw [hco]
  simp only [FaceDataBase.addUser, TbUser.insert_rows, List.map_append, List.map_singleton]
  rfl

/-- Nobody in a cache that holds the rows has an id that is still to be handed out. -/
theorem id_ne_of_fresh (hco : db.Coherent) (id : { id : Int // db.tbUser.Fresh id }) :
    ∀ u ∈ db.users, u.id ≠ id.1 := by
  intro u hu heq
  rw [hco] at hu
  obtain ⟨row, hrow, rfl⟩ := List.mem_map.1 hu
  -- the id of a row was handed out, so it is not fresh
  apply id.2.2
  rw [← heq]
  exact db.tbUser.issued_of_mem row hrow

end Register

section Recognise

variable {V observers} {users : List User} {new : User} {probe : Mat} {sim : User → Similarity}

variable (observers) in
/-- Recognition with one more user at the end. -/
theorem recognizeFaceFromDb_concat (hsim : Similarities V (users ++ [new]) probe sim) :
    (BeatsAll sim users new → recognizeFaceFromDb V observers (users ++ [new]) probe =
        .ok (recognitionOf observers probe (some new))) ∧
      (¬ BeatsAll sim users new → recognizeFaceFromDb V observers (users ++ [new]) probe =
        recognizeFaceFromDb V observers users probe) := by
  have hold : Similarities V users probe sim :=
    fun u hu => hsim u (List.mem_append_left _ hu)
  -- both answers are first best users, and the lists differ by their last element
  rw [recognizeFaceFromDb_eq_firstBest observers hsim,
    recognizeFaceFromDb_eq_firstBest observers hold, firstBest_concat]
  refine ⟨?_, ?_⟩
  · intro hbest
    rw [BeatsAll] at hbest
    rw [if_pos hbest]
  · intro hbest
    rw [BeatsAll] at hbest
    rw [if_neg hbest]

/-- Recognition does not answer with an id that no user has. -/
theorem id_ne_of_not_mem {id : Int} (hpos : 0 < id) (hne : ∀ u ∈ users, u.id ≠ id)
    {r : Recognition Mat} (h : recognizeFaceFromDb V observers users probe = .ok r) : r.id ≠ id := by
  rcases recognizeFaceFromDb_cases h with ⟨-, rfl⟩ | ⟨u, hu, -, rfl⟩
  · show (-1 : Int) ≠ id
    omega
  · exact hne u hu

end Recognise

variable {V observers} in
/-- The promise kept: every step from the insertion to the answer of the loop. -/
theorem newUserRecognised_of_decodes {db : FaceDataBase} (hco : db.Coherent)
    {id : { id : Int // db.tbUser.Fresh id }} {frame : Mat} (user : User)
    (hnew : NewFace V db.users frame) (hfit : db.tbUser.IdsFit) (hlt : id.1 < 2 ^ 31)
    (hdec : AllDecode V (db.users ++ [newUser V id.1 frame user])) :
    NewUserRecognised V observers db id frame user := by
  obtain ⟨result, hresult, hstore⟩ :=
    registerUser_of_newFace observers (some id) true user hnew
  have hco' : result.store.Coherent := by
    rw [hstore, FaceDataBase.coherent_loadToCache_iff]
    exact (idsFit_insert id.2 _ _ _).2 ⟨hfit, hlt⟩
  have husers : result.store.users = db.users ++ [newUser V id.1 frame user] := by
    rw [hco', hstore, FaceDataBase.loadToCache_tbUser]
    exact map_toUser_insert hco id
  have hfresh : ∀ u ∈ db.users, u.id ≠ id.1 := id_ne_of_fresh hco id
  refine ⟨result, hresult, husers, hfresh, ?_⟩
  intro probe info
  have hsim := similarities_of_allDecode hdec probe
  obtain ⟨r, hbefore⟩ : ∃ r, recognizeFaceFromDb V observers db.users probe = .ok r :=
    ⟨_, recognizeFaceFromDb_eq_firstBest observers fun u hu =>
      hsim u (List.mem_append_left _ hu)⟩
  have hafter := recognizeFaceFromDb_concat observers hsim
  rw [← husers] at hafter
  by_cases hbest : BeatsAll (similarityTo V probe) db.users (newUser V id.1 frame user)
  · exact ⟨r, _, hbefore, hafter.1 hbest, iff_of_true ⟨rfl, rfl⟩ hbest,
      fun hnot => absurd hbest hnot⟩
  · -- the old answer is not the new id
    have hne : r.id ≠ id.1 := id_ne_of_not_mem id.2.1 hfresh hbefore
    exact ⟨r, r, hbefore, (hafter.2 hbest).trans hbefore, iff_of_false (fun h => hne h.1) hbest,
      fun _ => rfl⟩

/-- **A user just registered is recognised, and nobody else's answer is disturbed**, exactly if the
ids of the rows and the new one fit an `int` and all bytes stored, the new ones included, can be
decoded. -/
theorem new_user_recognised_iff (db : FaceDataBase) (hco : db.Coherent)
    (id : { id : Int // db.tbUser.Fresh id }) (frame : Mat) (user : User)
    (hface : V.detectFaces frame ≠ []) (hnot : ¬ Known V db.users frame) :
    NewUserRecognised V observers db id frame user ↔
      db.tbUser.IdsFit ∧ id.1 < 2 ^ 31 ∧
        AllDecode V (db.users ++ [newUser V id.1 frame user]) := by
  constructor
  · rintro ⟨result, hresult, husers, -, hprobe⟩
    -- recognition has come to the new entry
    obtain ⟨-, r', -, hr', -⟩ := hprobe frame user
    have hdec := allDecode_of_ok hr'
    rw [husers] at hdec
    have hnew : NewFace V db.users frame :=
      newFace_of_not_known hface hnot fun u hu => hdec u (List.mem_append_left _ hu)
    obtain ⟨result', hresult', hstore⟩ :=
      registerUser_of_newFace observers (some id) true user hnew
    obtain rfl : result = result' := Except.ok.inj (hresult.symm.trans hresult')
    -- the cache holds the rows, so their ids fit
    have hco' : result.store.Coherent := by
      rw [FaceDataBase.Coherent, husers, hstore, FaceDataBase.loadToCache_tbUser]
      exact (map_toUser_insert hco id).symm
    rw [hstore, FaceDataBase.coherent_loadToCache_iff] at hco'
    obtain ⟨hfit, hlt⟩ := (idsFit_insert id.2 _ _ _).1 hco'
    exact ⟨hfit, hlt, hdec⟩
  · rintro ⟨hfit, hlt, hdec⟩
    have hnew : NewFace V db.users frame :=
      newFace_of_not_known hface hnot fun u hu => hdec u (List.mem_append_left _ hu)
    exact newUserRecognised_of_decodes hco user hnew hfit hlt hdec

/-- Ann is in the table and in the cache. -/
def annCached : FaceDataBase := FaceDataBase.loadToCache { tbUser := oneRow } true

/-- Whom nobody in the cache is like, Ann being the only one there. -/
theorem not_known_annCached {V : Vision Nat Nat} {img : Nat}
    (hsim : compareUser V img { id := 1, nickName := "Ann", faceImgBytes := [2] } = .ok 0) :
    ¬ Known V annCached.users img := by
  rintro ⟨u, hu, s, hs, hle⟩
  rw [List.mem_singleton.1 hu] at hs
  have hzero : (0 : Similarity) = s := Except.ok.inj (hsim.symm.trans hs)
  rw [← hzero] at hle
  exact absurd zero_lt_compareThreshold (not_lt_of_ge hle)

/-- Bob is registered after Ann. -/
theorem new_user_recognised_bob :
    NewUserRecognised sampleVision [7] annCached ⟨2, by decide⟩ 3 { nickName := "Bob" } ∧
      (NewUserRecognised sampleVision [7] annCached ⟨2, by decide⟩ 3 { nickName := "Bob" } ↔
        annCached.tbUser.IdsFit ∧ (2 : Int) < 2 ^ 31 ∧
          AllDecode sampleVision (annCached.users ++
            [newUser sampleVision 2 3 { nickName := "Bob" }])) := by
  have hiff := new_user_recognised_iff sampleVision [7] annCached (by decide) ⟨2, by decide⟩ 3
    { nickName := "Bob" } (by decide) (not_known_annCached (by decide +kernel))
  refine ⟨hiff.2 ⟨by decide, by decide, ?_⟩, hiff⟩
  intro u hu
  rcases List.mem_cons.1 hu with rfl | hu
  · exact ⟨2, rfl⟩
  · rw [List.mem_singleton.1 hu]
    exact ⟨3, rfl⟩

/-- The sample in which `mat_to_qimage` has no picture for image 4, and saving writes nothing. -/
def unsavedVision : Vision Nat Nat :=
  { sampleVision with saveJpeg := fun image => if image = 4 then [] else [UInt8.ofNat image] }

/-- After Bob is registered with a frame that cannot be saved, Ann is not recognised any more. Under
the id `2 ^ 32 - 1` he is cached as `-1`. -/
theorem new_user_not_recognised :
    (annCached.Coherent ∧ unsavedVision.detectFaces 4 ≠ [] ∧
      ¬ Known unsavedVision annCached.users 4 ∧
      (recognizeFaceFromDb unsavedVision [7] annCached.users 2).toOption.map (fun r => r.id) =
        some 1 ∧
      (∃ result, registerUser unsavedVision [7] annCached (some ⟨2, by decide⟩) true 4
          { nickName := "Bob" } = .ok result ∧ result.store.tbUser.rows.length = 2 ∧
        (recognizeFaceFromDb unsavedVision [7] result.store.users 2).toOption.map
          (fun r => r.id) = none) ∧
      ¬ NewUserRecognised unsavedVision [7] annCached ⟨2, by decide⟩ 4 { nickName := "Bob" }) ∧
    sampleVision.detectFaces 3 ≠ [] ∧ ¬ Known sampleVision annCached.users 3 ∧
    (∃ result, registerUser sampleVision [7] annCached (some ⟨4294967295, by decide⟩) true 3
        { nickName := "Bob" } = .ok result ∧ result.store.users.map User.id = [1, -1]) ∧
    ¬ NewUserRecognised sampleVision [7] annCached ⟨4294967295, by decide⟩ 3
      { nickName := "Bob" } := by
  have hunsaved : ¬ Known unsavedVision annCached.users 4 :=
    not_known_annCached (by decide +kernel)
  have hnew : ¬ Known sampleVision annCached.users 3 := not_known_annCached (by decide +kernel)
  refine ⟨⟨by decide, by decide, hunsaved, by decide +kernel,
      ⟨_, rfl, by decide +kernel, by decide +kernel⟩, ?_⟩, by decide, hnew,
    ⟨_, rfl, by decide +kernel⟩, ?_⟩
  · rintro ⟨result, hresult, husers, -, hprobe⟩
    -- the loop throws at the new entry
    obtain ⟨-, r', -, hr', -⟩ := hprobe 4 {}
    rw [husers] at hr'
    obtain ⟨decodedMat, hdec⟩ := allDecode_of_ok hr' (newUser unsavedVision 2 4 { nickName := "Bob" })
      (List.mem_append_right _ List.mem_cons_self)
    cases hdec
  · rintro ⟨result, hresult, husers, -⟩
    obtain ⟨result', hresult', hids⟩ : ∃ result, registerUser sampleVision [7] annCached
        (some ⟨4294967295, by decide⟩) true 3 { nickName := "Bob" } = .ok result ∧
        result.store.users.map User.id = [1, -1] := ⟨_, rfl, by decide +kernel⟩
    obtain rfl : result = result' := Except.ok.inj (hresult.symm.trans hresult')
    rw [husers] at hids
    exact absurd hids (by decide)

end ArmFaceID.Server
