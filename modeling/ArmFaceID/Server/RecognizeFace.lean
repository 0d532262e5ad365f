import ArmFaceID.Server.Engine

/-!
# Recognition over SeetaFace's database

`FaceDetectorServer::RecognizeFace` asks `Query` what `RegisterFace(frame)` asks it. Registration
refuses only above the similarity `0.5`; recognition uses the similarity for its log alone and
announces the index of the nearest entry, however far it is (`sameCriterion_iff`).
-/

set_option autoImplicit false

namespace ArmFaceID.Server

variable {Mat QImage : Type} (V : Vision Mat QImage) (observers : List Observer)

/-- `FaceDetectorServer::RecognizeFace`: the value returned and the calls made on the observers. -/
def recognizeFace (gallery : V.Gallery) (frame : Mat) : Int × List (Notification Mat Int) :=
  -- the similarity found decides between two log lines and nothing else
  let (id, _) := V.query gallery frame 0
  if id = -2 then (-2, [])
  else (id, notifyAll observers (.onFaceRecognized frame {} id))

/-- The frame is recognised: a registered index is returned and announced. -/
def Recognised (gallery : V.Gallery) (frame : Mat) : Prop :=
  ∃ id, 0 ≤ id ∧ recognizeFace V observers gallery frame =
    (id, notifyAll observers (.onFaceRecognized frame {} id))

/-- Recognition draws the line where `RegisterFace(frame)` does, so that nobody is announced at a
similarity of `0.5` or less. -/
structure SameCriterion (gallery : V.Gallery) (frame : Mat) : Prop where
  agree : ∀ answer, Recognised V observers gallery frame ↔
    (registerFace V observers gallery answer frame).id = kFaceAlreadyExisted
  announced : ∀ o img face id,
    (o, Callback.onFaceRecognized img face id) ∈ (recognizeFace V observers gallery frame).2 →
      0 ≤ id → queryThreshold < (V.query gallery frame 0).2

section Specs

variable {V} {gallery : V.Gallery} {frame : Mat}

/-- `Query` answers `-1` when there is no face to ask about or nobody to find, and an index
otherwise. -/
theorem query_index (gallery : V.Gallery) (frame : Mat) :
    ((V.detectFaces frame = [] ∨ gallery = []) ∧ (V.query gallery frame 0).1 = -1) ∨
      (V.detectFaces frame ≠ [] ∧ gallery ≠ []) ∧ 0 ≤ (V.query gallery frame 0).1 := by
  cases hdet : V.detectFaces frame with
  | nil => exact Or.inl ⟨Or.inl rfl, by simp only [FaceEngine.query, hdet]⟩
  | cons face rest =>
      by_cases hg : gallery = []
      · refine Or.inl ⟨Or.inr hg, ?_⟩
        simp only [FaceEngine.query, hdet]
        rw [hg]
        exact V.fdbQuery_nil frame _
      · refine Or.inr ⟨⟨List.cons_ne_nil face rest, hg⟩, ?_⟩
        obtain ⟨e, -, hq, -⟩ := V.fdbQuery_best gallery frame (V.detectPoints frame face) hg
        simp only [FaceEngine.query, hdet, hq]
        omega

/-- Registration refuses exactly a face that some entry matches. -/
theorem registerFace_refuses_iff (answer : Option Nat) :
    (registerFace V observers gallery answer frame).id = kFaceAlreadyExisted ↔
      V.Matched gallery frame := by
  rcases registerFace_cases V observers gallery answer frame with
    ⟨hm, hreg⟩ | ⟨hm, -, hreg⟩ | ⟨e, hm, -, -, -, hreg⟩
  · rw [hreg]
    exact iff_of_true rfl hm
  · rw [hreg]
    refine iff_of_false ?_ hm
    show (-1 : Int) ≠ -2
    omega
  · rw [hreg]
    refine iff_of_false ?_ hm
    show (e.index : Int) ≠ -2
    omega

theorem recognised_of_index (h : 0 ≤ (V.query gallery frame 0).1) :
    Recognised V observers gallery frame := by
  have hne : (V.query gallery frame 0).1 ≠ -2 := by omega
  exact ⟨_, h, by simp only [recognizeFace, if_neg hne]⟩

/-- What `-1` from `Query` becomes. -/
theorem recognizeFace_of_neg (h : (V.query gallery frame 0).1 = -1) :
    recognizeFace V observers gallery frame =
      (-1, notifyAll observers (.onFaceRecognized frame {} (-1))) := by
  have hne : (-1 : Int) ≠ -2 := by omega
  simp only [recognizeFace, h, if_neg hne]

theorem not_recognised_of_neg (h : (V.query gallery frame 0).1 = -1) :
    ¬ Recognised V observers gallery frame := by
  rintro ⟨id, hpos, hrec⟩
  rw [recognizeFace_of_neg observers h] at hrec
  have hid : -1 = id := congrArg Prod.fst hrec
  omega

variable (V) in
/-- The two criteria agree on a frame without a face, on an empty database, and when some entry has
a similarity above `0.5` with the frame; otherwise the frame is announced as a person that
registration does not take it for. -/
theorem sameCriterion_iff (gallery : V.Gallery) (frame : Mat) :
    SameCriterion V observers gallery frame ↔
      V.detectFaces frame = [] ∨ gallery = [] ∨ V.Matched gallery frame := by
  constructor
  · intro h
    rcases query_index gallery frame with ⟨hnone | hg, -⟩ | ⟨-, hpos⟩
    · exact Or.inl hnone
    · exact Or.inr (Or.inl hg)
    · have hrefuse := (h.agree none).1 (recognised_of_index observers hpos)
      exact Or.inr (Or.inr ((registerFace_refuses_iff observers none).1 hrefuse))
  · intro h
    rcases query_index gallery frame with ⟨hwhy, hneg⟩ | ⟨⟨hface, hg⟩, hpos⟩
    · -- `-1`: nobody is announced and nobody refused
      have hm : ¬ V.Matched gallery frame := fun hm =>
        ((V.query_test_iff gallery frame).2 hm).1 hneg
      refine ⟨?_, ?_⟩
      · intro answer
        rw [registerFace_refuses_iff]
        exact iff_of_false (not_recognised_of_neg observers hneg) hm
      · intro o img face id hmem hid
        rw [recognizeFace_of_neg observers hneg] at hmem
        obtain ⟨o', -, heq⟩ := List.mem_map.1 hmem
        cases heq
        omega
    · have hm : V.Matched gallery frame := by
        rcases h with h | h | h
        · exact absurd h hface
        · exact absurd h hg
        · exact h
      refine ⟨?_, ?_⟩
      · intro answer
        rw [registerFace_refuses_iff]
        exact iff_of_true (recognised_of_index observers hpos) hm
      · intro _ _ _ _ _ _
        exact ((V.query_test_iff gallery frame).2 hm).2

end Specs

/-- The database with the face of image 2. -/
def galleryOfTwo : sampleVision.Gallery := (sampleVision.register (some 0) [] 2).2

/-- Image 3 has similarity `0` with image 2; it is announced as the person of index 0. -/
theorem stranger_recognised : ¬ SameCriterion sampleVision [7] galleryOfTwo 3 := by
  intro h
  have hrec : (7, Callback.onFaceRecognized 3 {} 0) ∈
      (recognizeFace sampleVision [7] galleryOfTwo 3).2 := by decide +kernel
  exact absurd (h.announced 7 3 {} 0 hrec (Int.le_refl 0)) (by decide +kernel)

end ArmFaceID.Server
