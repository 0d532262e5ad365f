import ArmFaceID.Server.BadRows

/-!
# What the recognition RPC answers

`RpcManagerImpl::RecognizeFace` hands the engine the matrix it declared. `bytes_to_mat` writes a
decoded image into it and, when the bytes are no image, says so on `stderr` and leaves it empty: the
handler goes on, runs the engine on an empty matrix and answers OK. On all other requests the answer is what the
status promises (`recognitionAnswers_iff`).
-/

set_option autoImplicit false

namespace ArmFaceID.Server

open ArmFaceID.Library

variable {Mat QImage : Type} (V : Vision Mat QImage) (observers : List Observer)

/-- The bytes decode to an image. -/
def Decodes (bytes : Bytes) : Prop := ∃ image, V.imdecode .color bytes = .ok image ∧
  V.isEmpty image = false

/-- The response names nobody, or one cached user by id and name. -/
def Consistent (users : List User) (response : RecognizeResult) : Prop :=
  (response.id = -1 ∧ response.name = "") ∨
    ∃ u ∈ users, response.id = u.id ∧ response.name = u.nickName

/-- OK is answered only to an image, with a consistent response; to anything else the status is not
OK, the engine is not run on an empty image and no observer is called. -/
structure RecognitionAnswers (users : List User) (request : RecognizeRequest)
    (served : Served Mat RecognizeResult) : Prop where
  ok : served.handled.status = .ok →
    Decodes V request.faceImg ∧ Consistent users served.handled.response
  refused : ¬ Decodes V request.faceImg → served.handled.status ≠ .ok ∧
    (∀ image ∈ served.engineImages, V.isEmpty image = false) ∧ served.calls = []

section Handler

variable {V observers} {users : List User} {request : RecognizeRequest}

/-- The handler once `bytes_to_mat` has returned: the engine is run on what `res` holds. -/
theorem rpcRecognizeFace_of_ok {image : Mat}
    (h : V.bytesToMat request.faceImg V.noMat = .ok image) :
    rpcRecognizeFace V observers users request =
      match recognizeFaceFromDb V observers users image with
      | .ok found =>
          ⟨⟨.ok, { id := found.id, name := (found.info.getD {}).nickName }⟩, found.calls, [image]⟩
      | .error _ => ⟨⟨.unknown, {}⟩, [], [image]⟩ := by
  simp only [rpcRecognizeFace, h]
  cases recognizeFaceFromDb V observers users image with
  | ok found => rfl
  | error err => rfl

/-- An exception in `bytes_to_mat` leaves the handler. -/
theorem rpcRecognizeFace_of_error {err : CvException}
    (h : V.bytesToMat request.faceImg V.noMat = .error err) :
    rpcRecognizeFace V observers users request = { handled := ⟨.unknown, {}⟩ } := by
  simp only [rpcRecognizeFace, h]

/-- The id returned and the user written through the pointer are those of one user, or of nobody. -/
theorem consistent_of_recognized {img : Mat} {found : Recognition Mat}
    (h : recognizeFaceFromDb V observers users img = .ok found) :
    Consistent users { id := found.id, name := (found.info.getD {}).nickName } := by
  rcases recognizeFaceFromDb_cases h with ⟨-, rfl⟩ | ⟨u, hu, -, rfl⟩
  · exact Or.inl ⟨rfl, rfl⟩
  · exact Or.inr ⟨u, hu, rfl, rfl⟩

theorem consistent_of_ok {image : Mat} (h : V.bytesToMat request.faceImg V.noMat = .ok image)
    (hok : (rpcRecognizeFace V observers users request).handled.status = .ok) :
    Consistent users (rpcRecognizeFace V observers users request).handled.response := by
  rw [rpcRecognizeFace_of_ok h] at hok ⊢
  cases hrec : recognizeFaceFromDb V observers users image with
  | ok found => exact consistent_of_recognized hrec
  | error err =>
      rw [hrec] at hok
      cases hok

variable (observers users) in
/-- The engine is run on the image that `bytes_to_mat` leaves. -/
theorem engineImages_of_ok {image : Mat} (h : V.bytesToMat request.faceImg V.noMat = .ok image) :
    (rpcRecognizeFace V observers users request).engineImages = [image] := by
  rw [rpcRecognizeFace_of_ok h]
  cases recognizeFaceFromDb V observers users image with
  | ok found => rfl
  | error err => rfl

/-- Bytes that are no image leave the matrix as it was. -/
theorem bytesToMat_of_not_decodes (laws : DecodingLaws V) {bytes : Bytes} (hne : bytes ≠ [])
    (hnot : ¬ Decodes V bytes) (res : Mat) : V.bytesToMat bytes res = .ok res := by
  obtain ⟨image, himage⟩ := laws.returns .color bytes hne
  have hempty : V.isEmpty image = true := by
    by_contra hfull
    exact hnot ⟨image, himage, Bool.eq_false_iff.2 hfull⟩
  simp [Vision.bytesToMat, himage, hempty, bind, Except.bind, pure, Except.pure]

variable (V observers) in
/-- The answers are right exactly when `cv::imdecode` does not return an empty matrix: the bytes are
empty or an image. -/
theorem recognitionAnswers_iff (laws : DecodingLaws V) (hno : V.isEmpty V.noMat = true)
    (users : List User) (request : RecognizeRequest) :
    RecognitionAnswers V users request (rpcRecognizeFace V observers users request) ↔
      request.faceImg = [] ∨ Decodes V request.faceImg := by
  constructor
  · intro h
    by_contra hbad
    obtain ⟨hne, hnot⟩ := not_or.1 hbad
    -- the engine is run on the matrix the handler declared
    have hrun := engineImages_of_ok observers users
      (bytesToMat_of_not_decodes laws hne hnot V.noMat)
    have hfull := (h.refused hnot).2.1 V.noMat (by rw [hrun]; exact List.mem_cons_self)
    rw [hno] at hfull
    cases hfull
  · rintro (hnil | hdec)
    · have herr : V.bytesToMat request.faceImg V.noMat = .error .cvError := by
        rw [hnil, Vision.bytesToMat, laws.throws]
        rfl
      rw [rpcRecognizeFace_of_error herr]
      constructor
      · intro h
        cases h
      · intro _
        refine ⟨?_, fun image himage => absurd himage List.not_mem_nil, rfl⟩
        intro hok
        cases hok
    · obtain ⟨image, himage, hfull⟩ := hdec
      have hrun := V.bytesToMat_of_decodes himage hfull V.noMat
      have hdec : Decodes V request.faceImg := ⟨image, himage, hfull⟩
      exact ⟨fun hok => ⟨hdec, consistent_of_ok hrun hok⟩, fun hnot => absurd hdec hnot⟩

end Handler

/-- An image is answered as promised. -/
theorem image_answered :
    RecognitionAnswers sampleVision [{ id := 1, nickName := "Ann", faceImgBytes := [2] }] ⟨[2]⟩
        (rpcRecognizeFace sampleVision [7]
          [{ id := 1, nickName := "Ann", faceImgBytes := [2] }] ⟨[2]⟩) ↔
      ([2] : Bytes) = [] ∨ Decodes sampleVision [2] :=
  recognitionAnswers_iff sampleVision [7] sampleVision_decodingLaws rfl _ ⟨[2]⟩

/-- Bytes that are no image get OK and id `-1`, after a run of the engine on the empty matrix. -/
theorem junk_answered_ok :
    (rpcRecognizeFace sampleVision [7] [] ⟨[0]⟩).handled = ⟨.ok, { id := -1 }⟩ ∧
    (rpcRecognizeFace sampleVision [7] [] ⟨[0]⟩).engineImages = [sampleVision.noMat] ∧
    ¬ RecognitionAnswers sampleVision [] ⟨[0]⟩ (rpcRecognizeFace sampleVision [7] [] ⟨[0]⟩) := by
  refine ⟨by decide +kernel, by decide +kernel, ?_⟩
  intro h
  have hnot : ¬ Decodes sampleVision [0] := by
    rintro ⟨image, himage, hfull⟩
    cases himage
    cases hfull
  exact (h.refused hnot).1 (by decide +kernel)

end ArmFaceID.Server
