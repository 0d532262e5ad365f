import ArmFaceID.Library.Shrinking
import ArmFaceID.Utils.Convert

/-!
# The camera preview

The client's window and two pages of the server show what the camera captures
(`client/gui.cpp`, `server/gui/register_page.cpp`, `server/gui/recognition_page.cpp`). Each scales a
frame to the size its label has and then gives the label the size of the scaled frame, so the label
is the limit for the next frame. How Qt scales is a parameter, of which `StaysInside` and
`KeepsAspectRatio` say what is relied on. No label grows, and each is resized a bounded number of
times (`preview_never_grows`); frames of one size leave the client's label alone after the second
(`preview_settles`).

Only these handlers set a size here. The client's label is fixed from the start; the labels of the
server's pages have a minimum size until a frame first resizes them, and the layout is taken not to
enlarge them before.
-/

set_option autoImplicit false

namespace ArmFaceID.Gui

open ArmFaceID.Library ArmFaceID.Utils

/-- `QSize` of a widget or a pixmap. -/
structure QSize where
  width : Nat
  height : Nat
  deriving DecidableEq

namespace QSize

/-- `QSize::isEmpty`. -/
def Empty (s : QSize) : Prop := s.width = 0 ∨ s.height = 0

instance (s : QSize) : Decidable s.Empty := inferInstanceAs (Decidable (_ ∨ _))

/-- The size of `QPixmap()`. -/
def null : QSize := ⟨0, 0⟩

/-- Width and height together. -/
def total (s : QSize) : Nat := s.width + s.height

end QSize

/-- The size of `pixmap.scaled(s, Qt::KeepAspectRatio)` is inside `s`. -/
def StaysInside (scaled : QSize → QSize → QSize) : Prop :=
  ∀ pixmap s, (scaled pixmap s).width ≤ s.width ∧ (scaled pixmap s).height ≤ s.height

/-- What is relied on of the size of `pixmap.scaled(s, Qt::KeepAspectRatio)`. In the proportions of
`pixmap`, `widthFor` is the width that goes with a height and `heightFor` the height that goes with a
width; how they are rounded to pixels is left open. -/
structure KeepsAspectRatio (scaled : QSize → QSize → QSize) (widthFor heightFor : QSize → Nat → Nat) :
    Prop where
  /-- A null pixmap and an empty size give a null pixmap, -/
  null : ∀ pixmap s, pixmap.Empty ∨ s.Empty → scaled pixmap s = .null
  /-- and nothing else does. -/
  visible : ∀ pixmap s, ¬ pixmap.Empty → ¬ s.Empty → ¬ (scaled pixmap s).Empty
  inside : StaysInside scaled
  /-- The result is as large as possible inside `s`: of the full height, if there is room for its
  width, -/
  fullHeight : ∀ pixmap s, ¬ pixmap.Empty → ¬ s.Empty → widthFor pixmap s.height ≤ s.width →
    scaled pixmap s = ⟨widthFor pixmap s.height, s.height⟩
  /-- and of the full width, if there is not. -/
  fullWidth : ∀ pixmap s, ¬ pixmap.Empty → ¬ s.Empty → s.width < widthFor pixmap s.height →
    scaled pixmap s = ⟨s.width, heightFor pixmap s.width⟩

/-- A frame and the memory its pixels are in. -/
abbrev CapturedFrame := Memory UInt8 × CvMat

def frameImage (frame : CapturedFrame) : QImage := (matToQimage frame.1 frame.2).1

def imageSize (image : QImage) : QSize := ⟨image.width, image.height⟩

/-- The labels of the two pages. -/
structure PageLabels where
  registerPage : QSize
  recognitionPage : QSize
  deriving DecidableEq

section Handlers

variable (scaled : QSize → QSize → QSize)

/-- The end of the handlers: the label's size once it shows an image of the given size. -/
def showImage (label image : QSize) : QSize :=
  let pixmap := scaled image label
  if label ≠ pixmap then pixmap else label

/-- `RegisterPage::setCameraFrame`. The frame is painted twice into a pixmap of its own size. -/
def registerPageSetCameraFrame (label : QSize) (image : QImage) : QSize :=
  showImage scaled label (imageSize image)

/-- `RecognitionPage::setCameraFrame`. The frame is painted into a pixmap of its own size. -/
def recognitionPageSetCameraFrame (label : QSize) (image : QImage) : QSize :=
  showImage scaled label (imageSize image)

/-- `GUI::OnFrameCaptured` of the client. -/
def guiOnFrameCaptured (label : QSize) (frame : CapturedFrame) : QSize :=
  showImage scaled label (imageSize (frameImage frame))

/-- `ElaGUI::OnFrameCaptured` of the server. -/
def elaGuiOnFrameCaptured (labels : PageLabels) (frame : CapturedFrame) : PageLabels where
  registerPage := registerPageSetCameraFrame scaled labels.registerPage (frameImage frame)
  recognitionPage := recognitionPageSetCameraFrame scaled labels.recognitionPage (frameImage frame)

end Handlers

/-- A label went from one size to another and was resized so many times: it is neither wider nor
higher than before, and was resized at most as often as it lost width and height. -/
structure Shrunk (before after : QSize) (resizes : Nat) : Prop where
  width : after.width ≤ before.width
  height : after.height ≤ before.height
  resizes : resizes + after.total ≤ before.total

/-! ## One frame -/

section Frame

variable {scaled : QSize → QSize → QSize} {widthFor heightFor : QSize → Nat → Nat}
  {label image : QSize}

variable (scaled) in
theorem showImage_eq (label image : QSize) : showImage scaled label image = scaled image label := by
  rw [showImage]
  split
  · rfl
  · next h => exact not_not.1 h

/-- A label that is resized loses some of its size. -/
theorem total_showImage_lt (hscaled : StaysInside scaled) (h : showImage scaled label image ≠ label) :
    (showImage scaled label image).total < label.total := by
  rw [showImage_eq] at h ⊢
  obtain ⟨hwidth, hheight⟩ := hscaled image label
  by_contra hle
  simp only [QSize.total] at hle
  apply h
  cases hsize : scaled image label with
  | mk width height =>
      rw [hsize] at hwidth hheight hle
      obtain ⟨width', height'⟩ := label
      simp only at hwidth hheight hle
      rw [QSize.mk.injEq]
      omega

/-- Once an image takes the height of the label, the label it leaves suits it. -/
theorem scaled_again (hscaled : KeepsAspectRatio scaled widthFor heightFor) (himage : ¬ image.Empty)
    (hlabel : ¬ label.Empty) (hwidth : widthFor image label.height ≤ label.width) :
    scaled image (scaled image label) = scaled image label := by
  have hleft := hscaled.visible image label himage hlabel
  rw [hscaled.fullHeight image label himage hlabel hwidth] at hleft ⊢
  exact hscaled.fullHeight image _ himage hleft (Nat.le_refl _)

/-- A third image of one size leaves the label alone. -/
theorem scaled_thrice (hscaled : KeepsAspectRatio scaled widthFor heightFor) (image label : QSize) :
    scaled image (scaled image (scaled image label)) = scaled image (scaled image label) := by
  by_cases himage : image.Empty
  · rw [hscaled.null image _ (Or.inl himage), hscaled.null image _ (Or.inl himage)]
  · by_cases hlabel : label.Empty
    · have hnull : QSize.null.Empty := Or.inl rfl
      rw [hscaled.null image label (Or.inr hlabel), hscaled.null image _ (Or.inr hnull),
        hscaled.null image _ (Or.inr hnull)]
    · rcases Nat.lt_or_ge label.width (widthFor image label.height) with hwide | hfits
      · -- the label keeps its width, and the next image takes the new height, or nothing changes
        have hleft := hscaled.visible image label himage hlabel
        rcases Nat.lt_or_ge (scaled image label).width (widthFor image (scaled image label).height)
          with hwide' | hfits'
        · have hfirst := hscaled.fullWidth image label himage hlabel hwide
          have hsecond := hscaled.fullWidth image _ himage hleft hwide'
          have hsame : scaled image (scaled image label) = scaled image label := by
            rw [hsecond, hfirst]
          rw [hsame, hsame]
        · exact scaled_again hscaled himage hleft hfits'
      · rw [scaled_again hscaled himage hlabel hfits, scaled_again hscaled himage hlabel hfits]

end Frame

/-! ## All frames -/

section Frames

variable {scaled : QSize → QSize → QSize}

/-- A label that follows the end of the handlers, whatever else the state holds. -/
theorem shrunk_of_showImage (hscaled : StaysInside scaled) {σ : Type} (view : σ → QSize)
    {step : σ → CapturedFrame → σ}
    (hview : ∀ s frame,
      view (step s frame) = showImage scaled (view s) (imageSize (frameImage frame)))
    (s : σ) (frames : List CapturedFrame) :
    Shrunk (view s) (view (frames.foldl step s)) (changes view step s frames) where
  width := by
    apply foldl_measure_le (μ := QSize.width)
    intro s frame
    rw [hview, showImage_eq]
    exact (hscaled _ _).1
  height := by
    apply foldl_measure_le (μ := QSize.height)
    intro s frame
    rw [hview, showImage_eq]
    exact (hscaled _ _).2
  resizes := by
    apply changes_add_le
    intro s frame h
    rw [hview] at h ⊢
    exact total_showImage_lt hscaled h

end Frames

/-- `QPixmap::scaled` with what is less than a pixel cut off, but for the last pixel. -/
def cutToPixels (pixmap s : QSize) : QSize :=
  if pixmap.Empty ∨ s.Empty then .null
  else
    let width := max (s.height * pixmap.width / pixmap.height) 1
    if width ≤ s.width then ⟨width, s.height⟩
    else ⟨s.width, max (s.width * pixmap.height / pixmap.width) 1⟩

theorem cutToPixels_keepsAspectRatio :
    KeepsAspectRatio cutToPixels (fun pixmap height => max (height * pixmap.width / pixmap.height) 1)
      (fun pixmap width => max (width * pixmap.height / pixmap.width) 1) where
  null pixmap s h := if_pos h
  visible pixmap s hpixmap hs := by
    simp only [cutToPixels, if_neg (not_or.2 ⟨hpixmap, hs⟩)]
    rw [QSize.Empty, not_or] at hs
    split
    · exact not_or.2 ⟨by simp only; omega, hs.2⟩
    · exact not_or.2 ⟨hs.1, by simp only; omega⟩
  inside pixmap s := by
    by_cases hempty : pixmap.Empty ∨ s.Empty
    · rw [cutToPixels, if_pos hempty]
      exact ⟨Nat.zero_le _, Nat.zero_le _⟩
    · simp only [cutToPixels, if_neg hempty]
      rw [not_or, QSize.Empty, QSize.Empty, not_or, not_or] at hempty
      obtain ⟨⟨hwidth, hheight⟩, hsWidth, hsHeight⟩ := hempty
      split
      · next hfits => exact ⟨hfits, Nat.le_refl _⟩
      · next hwide =>
          refine ⟨Nat.le_refl _, Nat.max_le.2 ⟨?_, Nat.pos_of_ne_zero hsHeight⟩⟩
          -- the full height would be too wide, so the full width is not too high
          have hlt : s.width < s.height * pixmap.width / pixmap.height := by omega
          have hle : s.width * pixmap.height ≤ s.height * pixmap.width :=
            (Nat.le_div_iff_mul_le (Nat.pos_of_ne_zero hheight)).1 (Nat.le_of_lt hlt)
          exact Nat.div_le_of_le_mul (by rw [Nat.mul_comm pixmap.width]; exact hle)
  fullHeight pixmap s hpixmap hs hfits := by
    simp only [cutToPixels, if_neg (not_or.2 ⟨hpixmap, hs⟩), if_pos hfits]
  fullWidth pixmap s hpixmap hs hwide := by
    simp only [cutToPixels, if_neg (not_or.2 ⟨hpixmap, hs⟩), if_neg (Nat.not_le_of_lt hwide)]

/-- **The previews never grow.** Whatever frames are captured, the label of the client's window and
each label of the server's two pages gets neither wider nor higher, and is resized at most as many
times as it loses of its width and height. -/
theorem preview_never_grows {scaled : QSize → QSize → QSize} (hscaled : StaysInside scaled)
    (label : QSize) (labels : PageLabels) (frames : List CapturedFrame) :
    Shrunk label (frames.foldl (guiOnFrameCaptured scaled) label)
        (changes id (guiOnFrameCaptured scaled) label frames) ∧
      Shrunk labels.registerPage (frames.foldl (elaGuiOnFrameCaptured scaled) labels).registerPage
        (changes PageLabels.registerPage (elaGuiOnFrameCaptured scaled) labels frames) ∧
      Shrunk labels.recognitionPage
        (frames.foldl (elaGuiOnFrameCaptured scaled) labels).recognitionPage
        (changes PageLabels.recognitionPage (elaGuiOnFrameCaptured scaled) labels frames) :=
  ⟨shrunk_of_showImage hscaled id (fun _ _ => rfl) label frames,
    shrunk_of_showImage hscaled PageLabels.registerPage (fun _ _ => rfl) labels frames,
    shrunk_of_showImage hscaled PageLabels.recognitionPage (fun _ _ => rfl) labels frames⟩

/-- A frame of the given size, in three channels. -/
def plainFrame (cols rows : Nat) : CapturedFrame :=
  (⟨fun _ _ => 0, 1⟩, .fresh ⟨fun _ _ => 0, 0⟩ .cv8uc3 rows cols)

/-- A wide frame and a high one, on the labels at their first sizes. -/
theorem preview_never_grows_turned :
    [plainFrame 640 360, plainFrame 360 640].foldl (elaGuiOnFrameCaptured cutToPixels)
        ⟨⟨400, 250⟩, ⟨390, 292⟩⟩ = ⟨⟨126, 225⟩, ⟨123, 219⟩⟩ ∧
      Shrunk ⟨390, 292⟩
        ([plainFrame 640 360, plainFrame 360 640].foldl (elaGuiOnFrameCaptured cutToPixels)
          ⟨⟨400, 250⟩, ⟨390, 292⟩⟩).recognitionPage
        (changes PageLabels.recognitionPage (elaGuiOnFrameCaptured cutToPixels)
          ⟨⟨400, 250⟩, ⟨390, 292⟩⟩ [plainFrame 640 360, plainFrame 360 640]) :=
  ⟨by decide +kernel,
    (preview_never_grows cutToPixels_keepsAspectRatio.inside ⟨320, 240⟩ ⟨⟨400, 250⟩, ⟨390, 292⟩⟩
      [plainFrame 640 360, plainFrame 360 640]).2.2⟩

/-- `mat_to_qimage` gives a null image. -/
def Unconvertible (frame : CapturedFrame) : Prop :=
  frame.2.Empty ∨ frame.2.type ≠ .cv8uc1 ∧ frame.2.type ≠ .cv8uc3 ∧ frame.2.type ≠ .cv8uc4

section Settling

variable {scaled : QSize → QSize → QSize} {widthFor heightFor : QSize → Nat → Nat}

theorem guiOnFrameCaptured_null (hscaled : KeepsAspectRatio scaled widthFor heightFor)
    (frame : CapturedFrame) : guiOnFrameCaptured scaled .null frame = .null := by
  rw [guiOnFrameCaptured, showImage_eq]
  exact hscaled.null _ _ (Or.inr (Or.inl rfl))

theorem guiOnFrameCaptured_unconvertible (hscaled : KeepsAspectRatio scaled widthFor heightFor)
    {frame : CapturedFrame} (h : Unconvertible frame) (label : QSize) :
    guiOnFrameCaptured scaled label frame = .null := by
  rw [guiOnFrameCaptured, showImage_eq, frameImage, matToQimage_null h]
  exact hscaled.null _ _ (Or.inl (Or.inl rfl))

end Settling

/-- **The preview settles.** Frames whose images are of one size resize the label at most twice, with
the first of them and the second. A frame that cannot be converted leaves nothing of the label, for
all frames to come. -/
theorem preview_settles {scaled : QSize → QSize → QSize} {widthFor heightFor : QSize → Nat → Nat}
    (hscaled : KeepsAspectRatio scaled widthFor heightFor) (label : QSize)
    (frames : List CapturedFrame) :
    (∀ image, (∀ frame ∈ frames, imageSize (frameImage frame) = image) →
        changes id (guiOnFrameCaptured scaled)
          ((frames.take 2).foldl (guiOnFrameCaptured scaled) label) (frames.drop 2) = 0) ∧
      ∀ frame ∈ frames, Unconvertible frame →
        frames.foldl (guiOnFrameCaptured scaled) label = .null := by
  refine ⟨?_, ?_⟩
  · intro image hsame
    have hstep : ∀ label, ∀ frame ∈ frames,
        guiOnFrameCaptured scaled label frame = scaled image label := by
      intro label frame hframe
      rw [guiOnFrameCaptured, showImage_eq, hsame frame hframe]
    match frames, hstep with
    | [], _ => rfl
    | [_], _ => rfl
    | first :: second :: rest, hstep =>
        apply changes_eq_zero
        intro frame hframe
        have hmem : frame ∈ first :: second :: rest :=
          List.mem_cons_of_mem _ (List.mem_cons_of_mem _ hframe)
        have htwo : ([first, second].foldl (guiOnFrameCaptured scaled) label) =
            scaled image (scaled image label) := by
          rw [List.foldl_cons, List.foldl_cons, List.foldl_nil, hstep label first List.mem_cons_self,
            hstep _ second (List.mem_cons_of_mem _ List.mem_cons_self)]
        show guiOnFrameCaptured scaled ([first, second].foldl (guiOnFrameCaptured scaled) label)
          frame = [first, second].foldl (guiOnFrameCaptured scaled) label
        rw [htwo, hstep _ frame hmem]
        exact scaled_thrice hscaled image label
  · intro frame hframe hlost
    obtain ⟨before, after, rfl⟩ := List.append_of_mem hframe
    rw [List.foldl_append, List.foldl_cons, guiOnFrameCaptured_unconvertible hscaled hlost]
    exact foldl_fixed (guiOnFrameCaptured_null hscaled)

/-- Three frames on the label of the client's window: the first resizes it, and nothing after. -/
theorem preview_settles_wide :
    [plainFrame 640 360, plainFrame 640 360, plainFrame 640 360].foldl
        (guiOnFrameCaptured cutToPixels) ⟨320, 240⟩ = ⟨320, 180⟩ ∧
      changes id (guiOnFrameCaptured cutToPixels) ([plainFrame 640 360, plainFrame 640 360].foldl
        (guiOnFrameCaptured cutToPixels) ⟨320, 240⟩) [plainFrame 640 360] = 0 := by
  refine ⟨by decide +kernel, ?_⟩
  apply (preview_settles cutToPixels_keepsAspectRatio ⟨320, 240⟩
    [plainFrame 640 360, plainFrame 640 360, plainFrame 640 360]).1 ⟨640, 360⟩
  decide +kernel

end ArmFaceID.Gui
