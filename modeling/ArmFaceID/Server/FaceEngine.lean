import ArmFaceID.Interface
import ArmFaceID.Library.RunningMax
import Mathlib.Algebra.Order.Ring.Rat
import Mathlib.Algebra.Order.Monoid.Unbundled.WithTop

/-!
# The face engine

`server/face_engine.h` and the image routines the server calls. The SeetaFace modules and OpenCV are
third-party code: they enter as functions, and what is assumed of `FaceDatabase::Query` is a field
of `FaceEngine`. The outcome of `FaceDatabase::Register` is an argument of each call, so that it may
fail at any call.

Trust: `SeetaModels.engine` shows that the assumption on `Query` can be met over any models.
-/

set_option autoImplicit false

namespace ArmFaceID.Server

open ArmFaceID.Library

/-- Similarity values, `float` in the source. `⊥` is a value that is not a number: the source only
tests whether a similarity is greater than a number, and `⊥` never is. -/
abbrev Similarity := WithBot ℚ

/-- The `0.5` of `similarity > 0.5`. -/
def queryThreshold : Similarity := ((0.5 : ℚ) : Similarity)

/-- The `0.6` of `top_similarity < 0.6` and `top_similarity >= 0.6`. -/
def compareThreshold : Similarity := ((0.6 : ℚ) : Similarity)

theorem zero_lt_compareThreshold : (0 : Similarity) < compareThreshold := by decide +kernel

theorem queryThreshold_lt_compareThreshold : queryThreshold < compareThreshold := by decide +kernel

structure SeetaPointF where
  x : ℚ
  y : ℚ
  deriving DecidableEq

structure SeetaFaceInfo where
  pos : Rect
  score : ℚ
  deriving DecidableEq

/-- The stateless SeetaFace modules. -/
structure SeetaModels (Mat : Type) where
  /-- `FD.detect`. -/
  detect : Mat → List SeetaFaceInfo
  /-- `PD.mark`. -/
  mark : Mat → Rect → List SeetaPointF
  /-- `FDB.Compare`. -/
  fdbCompare : Mat → List SeetaPointF → Mat → List SeetaPointF → Similarity
  /-- `FR.Extract`. -/
  extract : Mat → List SeetaPointF → List ℚ

/-- An entry of SeetaFace's `FaceDatabase`. `FaceEngine::Register` is the only way in, so the points
are those of the first face of the image. -/
structure Entry {Mat : Type} (M : SeetaModels Mat) where
  index : Nat
  image : Mat
  points : List SeetaPointF
  enrolled : ∃ face rest, M.detect image = face :: rest ∧ points = M.mark image face.pos

/-- `seeta::FaceEngine`, with what is assumed of `FDB.Query`: it gives `-1` on an empty database and
the index and similarity of a most similar entry otherwise. -/
structure FaceEngine (Mat : Type) extends SeetaModels Mat where
  /-- `FDB.Query`. -/
  fdbQuery : List (Entry toSeetaModels) → Mat → List SeetaPointF → Int × Similarity
  fdbQuery_nil : ∀ image points, (fdbQuery [] image points).1 = -1
  fdbQuery_best : ∀ gallery image points, gallery ≠ [] → ∃ e ∈ gallery,
    fdbQuery gallery image points = ((e.index : Int), fdbCompare image points e.image e.points) ∧
      ∀ e' ∈ gallery, fdbCompare image points e'.image e'.points ≤
        fdbCompare image points e.image e.points

/-- The contents of SeetaFace's `FaceDatabase`, oldest entry first. -/
abbrev FaceEngine.Gallery {Mat : Type} (E : FaceEngine Mat) := List (Entry E.toSeetaModels)

namespace FaceEngine

variable {Mat : Type} (E : FaceEngine Mat)

/-- `FaceEngine::DetectFaces`. -/
def detectFaces (image : Mat) : List SeetaFaceInfo := E.detect image

/-- `FaceEngine::DetectPoints` with a face. -/
def detectPoints (image : Mat) (face : SeetaFaceInfo) : List SeetaPointF := E.mark image face.pos

/-- `FaceEngine::Compare` of two images: `0` when one of them shows no face. -/
def compare (image1 image2 : Mat) : Similarity :=
  match E.detectFaces image1 with
  | [] => 0
  | face1 :: _ =>
      match E.detectFaces image2 with
      | [] => 0
      | face2 :: _ =>
          E.fdbCompare image1 (E.detectPoints image1 face1) image2 (E.detectPoints image2 face2)

/-- `FaceEngine::Query`: the index found, and what `*similarity` holds afterwards when it held
`similarity` before. -/
def query (gallery : E.Gallery) (image : Mat) (similarity : Similarity) : Int × Similarity :=
  match E.detectFaces image with
  -- `*similarity` keeps its value
  | [] => (-1, similarity)
  | face :: _ => E.fdbQuery gallery image (E.detectPoints image face)

/-- `FaceEngine::Register`, when `FDB.Register` answers `answer`: a new index, or `none` for the
failure `-1`. -/
def register (answer : Option Nat) (gallery : E.Gallery) (image : Mat) : Int × E.Gallery :=
  match h : E.detectFaces image with
  | [] => (-1, gallery)
  | face :: rest =>
      match answer with
      | none => (-1, gallery)
      | some index =>
          (index, gallery ++ [⟨index, image, E.detectPoints image face, face, rest, h, rfl⟩])

/-- The similarity of an image with an entry of the database, as `FDB.Query` computes it. -/
def similarity (image : Mat) (e : Entry E.toSeetaModels) : Similarity :=
  E.compare image e.image

/-- Some entry of the database has a similarity above `0.5` with the image. -/
def Matched (gallery : E.Gallery) (image : Mat) : Prop :=
  ∃ e ∈ gallery, queryThreshold < E.similarity image e

variable {E}

theorem compare_of_no_face {image1 : Mat} (h : E.detectFaces image1 = []) (image2 : Mat) :
    E.compare image1 image2 = 0 := by
  simp only [compare, h]

/-- The points stored with an entry are those `Compare` recomputes from its image. -/
theorem similarity_eq {image : Mat} {face : SeetaFaceInfo} {rest : List SeetaFaceInfo}
    (h : E.detectFaces image = face :: rest) (e : Entry E.toSeetaModels) :
    E.similarity image e =
      E.fdbCompare image (E.detectPoints image face) e.image e.points := by
  obtain ⟨face', rest', hdet, hpoints⟩ := e.enrolled
  have hdet' : E.detectFaces e.image = face' :: rest' := hdet
  simp only [similarity, compare, h, hdet', hpoints, detectPoints]

theorem not_matched_of_no_face {gallery : E.Gallery} {image : Mat}
    (h : E.detectFaces image = []) : ¬ E.Matched gallery image := by
  rintro ⟨e, -, he⟩
  rw [similarity, compare_of_no_face h] at he
  exact absurd he (by decide +kernel)

/-- The test of `RegisterFace(frame)` on the answer of `Query` decides whether an entry matches. -/
theorem query_test_iff (gallery : E.Gallery) (image : Mat) :
    ((E.query gallery image 0).1 ≠ -1 ∧ queryThreshold < (E.query gallery image 0).2) ↔
      E.Matched gallery image := by
  cases hdet : E.detectFaces image with
  | nil =>
      simp only [query, hdet, ne_eq, not_true_eq_false, false_and, false_iff]
      exact not_matched_of_no_face hdet
  | cons face rest =>
      simp only [query, hdet]
      by_cases hg : gallery = []
      · subst hg
        simp [E.fdbQuery_nil, Matched]
      · obtain ⟨e, he, hq, hbest⟩ := E.fdbQuery_best gallery image (E.detectPoints image face) hg
        rw [hq]
        constructor
        · rintro ⟨-, hlt⟩
          exact ⟨e, he, by rw [similarity_eq hdet]; exact hlt⟩
        · rintro ⟨e', he', hlt⟩
          rw [similarity_eq hdet] at hlt
          -- the entry found is at least as similar as the one that matches
          refine ⟨?_, lt_of_lt_of_le hlt (hbest e' he')⟩
          show (e.index : Int) ≠ -1
          omega

/-- What `Register` can do: fail and leave the database, or append an entry for the image. -/
theorem register_cases (answer : Option Nat) (gallery : E.Gallery) (image : Mat) :
    ((E.detectFaces image = [] ∨ answer = none) ∧
        E.register answer gallery image = (-1, gallery)) ∨
      ∃ e : Entry E.toSeetaModels, E.detectFaces image ≠ [] ∧ answer = some e.index ∧
        e.image = image ∧ E.register answer gallery image = ((e.index : Int), gallery ++ [e]) := by
  unfold register
  split
  · next h => exact Or.inl ⟨Or.inl h, rfl⟩
  · next face rest h =>
      cases answer with
      | none => exact Or.inl ⟨Or.inr rfl, rfl⟩
      | some index =>
          refine Or.inr
            ⟨⟨index, image, E.detectPoints image face, face, rest, h, rfl⟩, ?_, rfl, rfl, rfl⟩
          rw [h]
          exact List.cons_ne_nil _ _

end FaceEngine

/-! ## A database that scans its entries -/

/-- The index and score of the first best entry, `-1` for none. -/
def scanEntries {Mat : Type} {M : SeetaModels Mat} (score : Entry M → Similarity) :
    List (Entry M) → Int × Similarity
  | [] => (-1, 0)
  | e :: es =>
      let best := runningMax (score e, e) (es.map fun e' => (score e', e'))
      ((best.2.index : Int), best.1)

theorem scanEntries_best {Mat : Type} {M : SeetaModels Mat} (score : Entry M → Similarity)
    {gallery : List (Entry M)} (h : gallery ≠ []) :
    ∃ e ∈ gallery, scanEntries score gallery = ((e.index : Int), score e) ∧
      ∀ e' ∈ gallery, score e' ≤ score e := by
  cases gallery with
  | nil => exact absurd rfl h
  | cons e es =>
      let pairs := es.map fun e' => (score e', e')
      -- every pair the scan meets is an entry with its own score
      have hpair : ∀ p ∈ (score e, e) :: pairs, p.2 ∈ e :: es ∧ p.1 = score p.2 := by
        intro p hp
        rcases List.mem_cons.1 hp with rfl | hp
        · exact ⟨List.mem_cons_self, rfl⟩
        · obtain ⟨e', he', rfl⟩ := List.mem_map.1 hp
          exact ⟨List.mem_cons_of_mem _ he', rfl⟩
      have hmem : runningMax (score e, e) pairs ∈ (score e, e) :: pairs := by
        rcases runningMax_eq_start_or_mem (score e, e) pairs with hr | hr
        · rw [hr]
          exact List.mem_cons_self
        · exact List.mem_cons_of_mem _ hr
      obtain ⟨hin, hscore⟩ := hpair _ hmem
      refine ⟨(runningMax (score e, e) pairs).2, hin, ?_, ?_⟩
      · rw [← hscore]
        rfl
      · intro e' he'
        rw [← hscore]
        rcases List.mem_cons.1 he' with rfl | he'
        · exact start_le_runningMax (score e', e') pairs
        · have hin' : (score e', e') ∈ pairs := List.mem_map.2 ⟨e', he', rfl⟩
          exact le_runningMax_of_mem (score e, e) hin'

/-- The engine over given models whose `Query` scans the entries. -/
def SeetaModels.engine {Mat : Type} (M : SeetaModels Mat) : FaceEngine Mat where
  toSeetaModels := M
  fdbQuery gallery image points :=
    scanEntries (fun e => M.fdbCompare image points e.image e.points) gallery
  fdbQuery_nil _ _ := rfl
  fdbQuery_best _ _ _ h := scanEntries_best _ h

/-! ## Images and bytes -/

/-- The exception `cv::imdecode` throws. -/
inductive CvException where
  | cvError
  deriving DecidableEq

/-- The flag of `cv::imdecode`. -/
inductive ImreadMode where
  | color
  | unchanged
  deriving DecidableEq

/-- The engine together with the image routines of OpenCV and Qt. -/
structure Vision (Mat QImage : Type) extends FaceEngine Mat where
  /-- `cv::Mat()`. -/
  noMat : Mat
  /-- `cv::Mat::empty`. -/
  isEmpty : Mat → Bool
  /-- `cv::imdecode`. -/
  imdecode : ImreadMode → Bytes → Except CvException Mat
  /-- `cv::imencode`. -/
  imencode : String → Mat → Bytes
  /-- `utils::mat_to_qimage`. -/
  matToQimage : Mat → QImage
  /-- The bytes `QImage::save(&buffer, "JPEG")` leaves in the buffer. -/
  saveJpeg : QImage → Bytes

namespace Vision

variable {Mat QImage : Type} (V : Vision Mat QImage)

/-- `utils::bytes_to_mat`: `res` keeps its value when nothing is decoded. -/
def bytesToMat (bytes : Bytes) (res : Mat) : Except CvException Mat := do
  let decodeImg ← V.imdecode .color bytes
  if V.isEmpty decodeImg then return res
  return decodeImg

theorem bytesToMat_of_decodes {bytes : Bytes} {image : Mat} (h : V.imdecode .color bytes = .ok image)
    (hne : V.isEmpty image = false) (res : Mat) : V.bytesToMat bytes res = .ok image := by
  simp [bytesToMat, h, hne, bind, Except.bind, pure, Except.pure]

end Vision

/-- A small instance for runs on fixed inputs. Images are numbers: `0` is the empty one, `1` shows
no face, and any other number shows one face, similar only to itself. -/
def sampleVision : Vision Nat Nat where
  toFaceEngine := SeetaModels.engine
    { detect := fun image => if image < 2 then [] else [⟨{}, 1⟩]
      mark := fun _ _ => []
      fdbCompare := fun image1 _ image2 _ => if image1 = image2 then ((1 : ℚ) : Similarity) else 0
      extract := fun image _ => [(image : ℚ)] }
  noMat := 0
  isEmpty image := image == 0
  imdecode _ bytes :=
    match bytes with
    | [] => .error .cvError
    | b :: _ => .ok b.toNat
  imencode _ image := [UInt8.ofNat image]
  matToQimage image := image
  saveJpeg image := [UInt8.ofNat image]

end ArmFaceID.Server
