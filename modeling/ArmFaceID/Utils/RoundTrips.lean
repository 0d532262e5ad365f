import ArmFaceID.Utils.Convert

/-!
# There and back between `cv::Mat` and `QImage`

A matrix of one or three channels comes back from `QImage` with the bytes it had, whatever the
strides (`qimageToMat_matToQimage`). A `QImage` does not always come back with its colours: the
matrix made of an `RGB32` image holds blue, green, red, and `mat_to_qimage` shows four channels as
red, green, blue (`keepsColours_iff`).
-/

set_option autoImplicit false

namespace ArmFaceID.Utils

open ArmFaceID.Library

/-! ## From a matrix and back -/

/-- The matrix has the size and the type of the other, and its bytes. -/
structure SameMatrix (a b : CvMat × Memory UInt8) : Prop where
  type_eq : a.1.type = b.1.type
  rows_eq : a.1.rows = b.1.rows
  cols_eq : a.1.cols = b.1.cols
  byte_eq : ∀ row col channel, row < b.1.rows → col < b.1.cols → channel < b.1.type.elemSize →
    a.1.byteAt a.2 row col channel = b.1.byteAt b.2 row col channel

theorem sameMatrix_of_read {a b : CvMat × Memory UInt8} (htype : a.1.type = b.1.type)
    (hrows : a.1.rows = b.1.rows) (hcols : a.1.cols = b.1.cols)
    (hread : ∀ row i, row < b.1.rows → i < b.1.cols * b.1.type.elemSize →
      a.2.read a.1.raster row i = b.2.read b.1.raster row i) : SameMatrix a b := by
  refine ⟨htype, hrows, hcols, ?_⟩
  intro row col channel hrow hcol hchannel
  rw [CvMat.byteAt, CvMat.byteAt, htype]
  exact hread row _ hrow (pixel_lt hcol hchannel)

section FromMat

variable {m : Memory UInt8} {mat : CvMat} {there : QImage × Memory UInt8}

/-- A gray copy of a matrix becomes that matrix. -/
theorem sameMatrix_of_gray (htype : mat.type = .cv8uc1)
    (hcopy : CopyOf m mat.raster id .formatGrayscale8 mat.cols mat.rows there) :
    SameMatrix (qimageToMat there.2 there.1) (mat, m) := by
  rw [qimageToMat_grayscale8 hcopy.format_eq]
  refine sameMatrix_of_read htype.symm hcopy.height_eq hcopy.width_eq ?_
  intro row i hrow hi
  rw [overBits_raster]
  rw [htype] at hi
  exact hcopy.read_eq row i hrow hi

/-- A copy of a matrix with the channels exchanged becomes that matrix: they are exchanged again. -/
theorem sameMatrix_of_rgb888 (htype : mat.type = .cv8uc3)
    (hcopy : CopyOf m mat.raster swapRedBlue .formatRgb888 mat.cols mat.rows there) :
    SameMatrix (qimageToMat there.2 there.1) (mat, m) := by
  rw [qimageToMat_rgb888 hcopy.format_eq]
  refine sameMatrix_of_read htype.symm hcopy.height_eq hcopy.width_eq ?_
  intro row i hrow hi
  rw [htype] at hi
  have hrow' : row < there.1.raster.height := by
    show row < there.1.height
    rw [hcopy.height_eq]
    exact hrow
  have hi' : i < there.1.raster.rowLength := by
    show i < there.1.width * there.1.format.pixelSize
    rw [hcopy.width_eq, hcopy.format_eq]
    exact hi
  calc (there.2.fill there.1.raster fun row i =>
          there.2.read there.1.raster row (swapRedBlue i)).read
          (CvMat.overBits there.1 .cv8uc3 (elemSize_of_rgb888 hcopy.format_eq)).raster row i
      = there.2.read there.1.raster row (swapRedBlue i) := by
        rw [overBits_raster, Memory.read_fill _ _ _ hrow' hi']
    _ = m.read mat.raster row (swapRedBlue (swapRedBlue i)) :=
        hcopy.read_eq row _ hrow (swapRedBlue_lt hi)
    _ = m.read mat.raster row i := by rw [swapRedBlue_swapRedBlue]

/-- Turning a copy into a matrix leaves the buffers that were in use before the copy. -/
theorem sameMatrix_of_copy {source : Raster} {order : Nat → Nat} {format : QImageFormat}
    {width height : Nat} (hcopy : CopyOf m source order format width height there)
    (hdata : mat.data.buffer < m.next) :
    SameMatrix (mat, (qimageToMat there.2 there.1).2) (mat, m) := by
  refine sameMatrix_of_read rfl rfl rfl ?_
  intro row i _ _
  have hframe := hcopy.frame mat.raster hdata row i
  by_cases h : there.1.format = .formatRgb888
  · -- the write goes to the buffer of the copy
    have hne : mat.raster.buffer ≠ there.1.raster.buffer :=
      Nat.ne_of_lt (Nat.lt_of_lt_of_le hdata hcopy.fresh)
    rw [qimageToMat_rgb888 h, Memory.read_fill_of_ne _ hne, hframe]
  · rw [qimageToMat_snd_of_ne h, hframe]

/-- A matrix of one or three channels comes back from `QImage` with its type, size and bytes, and
stays as it was itself. -/
theorem qimageToMat_matToQimage (hdata : mat.data.buffer < m.next) (hne : ¬ mat.Empty)
    (htype : mat.type = .cv8uc1 ∨ mat.type = .cv8uc3) (hstep : mat.step < 2 ^ 31) :
    SameMatrix (qimageToMat (matToQimage m mat).2 (matToQimage m mat).1) (mat, m) ∧
      SameMatrix (mat, (qimageToMat (matToQimage m mat).2 (matToQimage m mat).1).2) (mat, m) := by
  rcases htype with htype | htype
  · have hcopy := copyOf_matToQimage_cv8uc1 (m := m) htype hne hstep
    exact ⟨sameMatrix_of_gray htype hcopy, sameMatrix_of_copy hcopy hdata⟩
  · have hle := mat.row_le
    rw [htype] at hle
    have hcopy := copyOf_matToQimage_cv8uc3 (m := m) htype hne (Nat.lt_of_le_of_lt hle hstep)
    exact ⟨sameMatrix_of_rgb888 htype hcopy, sameMatrix_of_copy hcopy hdata⟩

end FromMat

/-- A view of two rows of five pixels of three channels, twenty bytes apart, three bytes into its
buffer. -/
def viewOfThree : CvMat where
  type := .cv8uc3
  rows := 2
  cols := 5
  data := ⟨0, 3⟩
  step := 20
  row_le := by decide

/-- A memory whose first buffer is in use; a byte tells its place. -/
def placesMemory : Memory UInt8 := ⟨fun _ j => UInt8.ofNat j, 1⟩

theorem viewOfThree_back :
    SameMatrix (qimageToMat (matToQimage placesMemory viewOfThree).2
      (matToQimage placesMemory viewOfThree).1) (viewOfThree, placesMemory) ∧
    SameMatrix (viewOfThree, (qimageToMat (matToQimage placesMemory viewOfThree).2
      (matToQimage placesMemory viewOfThree).1).2) (viewOfThree, placesMemory) :=
  qimageToMat_matToQimage (by decide) (by decide) (Or.inr rfl) (by decide)

/-! ## From an image and back -/

/-- The colour of a pixel. -/
structure Colour where
  red : UInt8
  green : UInt8
  blue : UInt8
  deriving DecidableEq

/-- Red and blue exchanged. -/
def Colour.swapped (c : Colour) : Colour := ⟨c.blue, c.green, c.red⟩

theorem Colour.swapped_eq_self (c : Colour) : c.swapped = c ↔ c.red = c.blue := by
  constructor
  · intro h
    exact (congrArg Colour.red h).symm
  · intro h
    cases c with
    | mk red green blue =>
        have hred : red = blue := h
        rw [hred]
        rfl

/-- The colour a pixel's bytes stand for. A pixel of `Format_RGB32` is an integer `0xffRRGGBB`, its
lowest byte first. -/
def QImageFormat.colour (format : QImageFormat) (byte : Nat → UInt8) : Colour :=
  match format with
  | .formatRgb32 => ⟨byte 2, byte 1, byte 0⟩
  | .formatRgb888 => ⟨byte 0, byte 1, byte 2⟩
  | .formatGrayscale8 => ⟨byte 0, byte 0, byte 0⟩
  | .formatRgba8888 => ⟨byte 0, byte 1, byte 2⟩
  | .other => ⟨0, 0, 0⟩

/-- The colour of the pixel of a raster at a row and a column. -/
def colourAt (m : Memory UInt8) (w : Raster) (format : QImageFormat) (row col : Nat) : Colour :=
  format.colour fun channel => m.read w row (col * format.pixelSize + channel)

/-- The colour of a pixel of an image. -/
def QImage.colour (m : Memory UInt8) (image : QImage) (row col : Nat) : Colour :=
  colourAt m image.raster image.format row col

/-- Red and blue agree in every pixel. -/
def RedIsBlue (m : Memory UInt8) (image : QImage) : Prop :=
  ∀ row col, row < image.height → col < image.width →
    (image.colour m row col).red = (image.colour m row col).blue

/-- `qimage_to_mat` does not answer `cv::Mat()`. -/
def Accepted (image : QImage) : Prop :=
  image.format = .formatRgb32 ∨ image.format = .formatRgb888 ∨ image.format = .formatGrayscale8

/-- `mat_to_qimage(qimage_to_mat(image))` has the size of the image and the colours it had. -/
structure KeepsColours (m : Memory UInt8) (image : QImage) (back : QImage × Memory UInt8) :
    Prop where
  width_eq : back.1.width = image.width
  height_eq : back.1.height = image.height
  colour_eq : ∀ row col, row < image.height → col < image.width →
    back.1.colour back.2 row col = image.colour m row col

/-- `mat_to_qimage(qimage_to_mat(image))`. -/
def thereAndBack (m : Memory UInt8) (image : QImage) : QImage × Memory UInt8 :=
  matToQimage (qimageToMat m image).2 (qimageToMat m image).1

/-- The colour at a row and a column when rows are taken to start `stride` bytes apart, with red and
blue exchanged in `Format_RGB32`. -/
def misreadColour (m : Memory UInt8) (image : QImage)
    (stride : { n : Nat // image.width * image.format.pixelSize ≤ n }) (row col : Nat) : Colour :=
  let read := colourAt m (image.bits.raster image.height _ stride) image.format row col
  if image.format = .formatRgb32 then read.swapped else read

/-- The image is of format `Format_RGB888`, or Qt takes the stride that `static_cast<int>` leaves of
`bytesPerLine()` and reads the same colours with it. -/
def ColoursSurvive (m : Memory UInt8) (image : QImage) : Prop :=
  image.format = .formatRgb888 ∨
    ∃ stride, QImage.lineStride (image.width * image.format.pixelSize)
        (toInt32 image.bytesPerLine) = some stride ∧
      ∀ row col, row < image.height → col < image.width →
        misreadColour m image stride row col = image.colour m row col

section FromQimage

variable {m : Memory UInt8} {image : QImage}

theorem QImageFormat.colour_congr {format : QImageFormat} {f g : Nat → UInt8}
    (h : ∀ channel, channel < format.pixelSize → f channel = g channel) :
    format.colour f = format.colour g := by
  cases format with
  | formatRgb32 =>
      simp only [QImageFormat.colour, h 0 (by decide), h 1 (by decide), h 2 (by decide)]
  | formatRgb888 =>
      simp only [QImageFormat.colour, h 0 (by decide), h 1 (by decide), h 2 (by decide)]
  | formatGrayscale8 => simp only [QImageFormat.colour, h 0 (by decide)]
  | formatRgba8888 =>
      simp only [QImageFormat.colour, h 0 (by decide), h 1 (by decide), h 2 (by decide)]
  | other => rfl

/-- The colours of a copy are those its format gives to the bytes it took. -/
theorem CopyOf.colour_eq {source : Raster} {order : Nat → Nat} {format : QImageFormat}
    {width height : Nat} {result : QImage × Memory UInt8}
    (h : CopyOf m source order format width height result) {row col : Nat} (hrow : row < height)
    (hcol : col < width) :
    result.1.colour result.2 row col = format.colour fun channel =>
      m.read source row (order (col * format.pixelSize + channel)) := by
  rw [QImage.colour, colourAt, h.format_eq]
  apply QImageFormat.colour_congr
  intro channel hchannel
  exact h.read_eq row _ hrow (pixel_lt hcol hchannel)

/-- A matrix over an image that is not null is not empty. -/
theorem not_empty_overBits (hne : image.format ≠ .other) {type : MatType}
    (hsize : type.elemSize = image.format.pixelSize) :
    ¬ (CvMat.overBits image type hsize).Empty := by
  obtain ⟨hw, hh⟩ := image.size_pos hne
  rintro (h0 | h0)
  · exact Nat.ne_of_gt hh h0
  · exact Nat.ne_of_gt hw h0

/-- In `Format_RGB888` the channels are exchanged twice. -/
theorem keepsColours_rgb888 (h : image.format = .formatRgb888) :
    KeepsColours m image (thereAndBack m image) := by
  have hlt := image.row_lt
  rw [h] at hlt
  let mat := CvMat.overBits image .cv8uc3 (elemSize_of_rgb888 h)
  let m' := m.fill image.raster fun row i => m.read image.raster row (swapRedBlue i)
  have hne : ¬ mat.Empty := not_empty_overBits (by rw [h]; decide) _
  have hback : thereAndBack m image = matToQimage m' mat := by
    rw [thereAndBack, qimageToMat_rgb888 h]
  have hcopy : CopyOf m' mat.raster swapRedBlue .formatRgb888 image.width image.height
      (matToQimage m' mat) := copyOf_matToQimage_cv8uc3 rfl hne hlt
  rw [hback]
  refine ⟨hcopy.width_eq, hcopy.height_eq, ?_⟩
  intro row col hrow hcol
  rw [hcopy.colour_eq hrow hcol, QImage.colour, colourAt, h]
  apply QImageFormat.colour_congr
  intro channel hchannel
  have hi : col * 3 + channel < image.width * 3 := pixel_lt hcol hchannel
  have hin : swapRedBlue (col * 3 + channel) < image.raster.rowLength := by
    show _ < image.width * image.format.pixelSize
    rw [h]
    exact swapRedBlue_lt hi
  calc m'.read mat.raster row (swapRedBlue (col * 3 + channel))
      = m.read image.raster row (swapRedBlue (swapRedBlue (col * 3 + channel))) := by
        rw [overBits_raster, Memory.read_fill _ _ _ hrow hin]
    _ = m.read image.raster row (col * 3 + channel) := by rw [swapRedBlue_swapRedBlue]

/-- Without a conversion the image is read again with the stride that the cast leaves, in the format
of the matrix. -/
theorem keepsColours_over {mat : CvMat} {format : QImageFormat} (hacc : image.format ≠ .other)
    (hmat : qimageToMat m image = (mat, m))
    (hback : matToQimage m mat = (QImage.overData image.bits image.width image.height
      (toInt32 image.bytesPerLine) format).copy m)
    (hsize : format.pixelSize = image.format.pixelSize) :
    KeepsColours m image (thereAndBack m image) ↔
      ∃ stride, QImage.lineStride (image.width * image.format.pixelSize)
          (toInt32 image.bytesPerLine) = some stride ∧
        ∀ row col, row < image.height → col < image.width →
          (format.colour fun channel => m.read (image.bits.raster image.height _ stride) row
            (col * image.format.pixelSize + channel)) = image.colour m row col := by
  obtain ⟨hw, hh⟩ := image.size_pos hacc
  have hthere : thereAndBack m image = (QImage.overData image.bits image.width image.height
      (toInt32 image.bytesPerLine) format).copy m := by
    rw [thereAndBack, hmat, hback]
  rw [hthere]
  have hlt := image.row_lt
  rw [← hsize] at hlt ⊢
  cases hstride : QImage.lineStride (image.width * format.pixelSize)
      (toInt32 image.bytesPerLine) with
  | none =>
      rw [copy_over_null hstride]
      constructor
      · -- a null image has no width
        intro h
        exact absurd h.width_eq (Nat.ne_of_lt hw)
      · rintro ⟨_, h, -⟩
        cases h
  | some stride =>
      have hcopy := copyOf_over (m := m) image.bits hw hh hlt hstride
      constructor
      · intro h
        refine ⟨stride, rfl, ?_⟩
        intro row col hrow hcol
        rw [← h.colour_eq row col hrow hcol, hcopy.colour_eq hrow hcol]
        rfl
      · rintro ⟨_, h, hcolour⟩
        cases h
        refine ⟨hcopy.width_eq, hcopy.height_eq, ?_⟩
        intro row col hrow hcol
        rw [hcopy.colour_eq hrow hcol]
        exact hcolour row col hrow hcol

theorem coloursSurvive_iff (h : image.format ≠ .formatRgb888) :
    ColoursSurvive m image ↔ ∃ stride, QImage.lineStride (image.width * image.format.pixelSize)
        (toInt32 image.bytesPerLine) = some stride ∧
      ∀ row col, row < image.height → col < image.width →
        misreadColour m image stride row col = image.colour m row col := or_iff_right h

/-- The bytes of a pixel of `Format_RGB32`, taken for those of `Format_RGBA8888`. -/
theorem misreadColour_rgb32 (h : image.format = .formatRgb32)
    {stride : { n : Nat // image.width * image.format.pixelSize ≤ n }} {row col : Nat} :
    misreadColour m image stride row col = QImageFormat.formatRgba8888.colour fun channel =>
      m.read (image.bits.raster image.height _ stride) row
        (col * image.format.pixelSize + channel) := by
  have hcolour : ∀ byte, (image.format.colour byte).swapped =
      QImageFormat.formatRgba8888.colour byte := by
    intro byte
    rw [h]
    rfl
  rw [misreadColour, if_pos h]
  exact hcolour _

theorem misreadColour_grayscale8 (h : image.format = .formatGrayscale8)
    {stride : { n : Nat // image.width * image.format.pixelSize ≤ n }} {row col : Nat} :
    misreadColour m image stride row col = QImageFormat.formatGrayscale8.colour fun channel =>
      m.read (image.bits.raster image.height _ stride) row
        (col * image.format.pixelSize + channel) := by
  have hcolour : ∀ byte, image.format.colour byte = QImageFormat.formatGrayscale8.colour byte := by
    intro byte
    rw [h]
  rw [misreadColour, if_neg (by rw [h]; decide)]
  exact hcolour _

/-- With a stride that fits an `int` the colours survive unless red and blue differ in
`Format_RGB32`. -/
theorem coloursSurvive_of_lt (hacc : Accepted image) (hlt : image.bytesPerLine < 2 ^ 31) :
    ColoursSurvive m image ↔ (image.format = .formatRgb32 → RedIsBlue m image) := by
  have hne : image.format ≠ .other := by
    rcases hacc with h | h | h <;> rw [h] <;> decide
  have hsize : 0 < image.width * image.format.pixelSize := by
    apply Nat.mul_pos (image.size_pos hne).1
    rcases hacc with h | h | h <;> rw [h] <;> decide
  have hstride := lineStride_of_lt hsize image.row_le hlt
  constructor
  · rintro (h | ⟨stride, h, hcolour⟩) hrgb row col hrow hcol
    · cases hrgb.symm.trans h
    · cases hstride.symm.trans h
      have hswap := hcolour row col hrow hcol
      rw [misreadColour, if_pos hrgb] at hswap
      exact (Colour.swapped_eq_self _).1 hswap
  · intro h
    refine Or.inr ⟨_, hstride, ?_⟩
    intro row col hrow hcol
    show (if image.format = .formatRgb32 then (image.colour m row col).swapped
      else image.colour m row col) = image.colour m row col
    split
    · next hrgb => exact (Colour.swapped_eq_self _).2 (h hrgb row col hrow hcol)
    · rfl

variable (m) in
/-- An image comes back from `cv::Mat` with its size and colours exactly when its colours survive;
when the stride fits an `int` that means: unless it is `Format_RGB32` and red differs from blue in
some pixel. -/
theorem keepsColours_iff (hacc : Accepted image) :
    (KeepsColours m image (thereAndBack m image) ↔ ColoursSurvive m image) ∧
      (image.bytesPerLine < 2 ^ 31 → (ColoursSurvive m image ↔
        (image.format = .formatRgb32 → RedIsBlue m image))) := by
  refine ⟨?_, coloursSurvive_of_lt hacc⟩
  rcases hacc with h | h | h
  · rw [keepsColours_over (by rw [h]; decide) (qimageToMat_rgb32 h)
      (matToQimage_cv8uc4 rfl (not_empty_overBits (by rw [h]; decide) _)) (by rw [h]; rfl),
      coloursSurvive_iff (by rw [h]; decide)]
    simp only [misreadColour_rgb32 h]
  · exact iff_of_true (keepsColours_rgb888 h) (Or.inl h)
  · rw [keepsColours_over (by rw [h]; decide) (qimageToMat_grayscale8 h)
      (matToQimage_cv8uc1 rfl (not_empty_overBits (by rw [h]; decide) _)) (by rw [h]),
      coloursSurvive_iff (by rw [h]; decide)]
    simp only [misreadColour_grayscale8 h]

end FromQimage

/-- An image of one pixel at the start of the first buffer. -/
def onePixel (format : QImageFormat) (h : format ≠ .other) : QImage where
  format := format
  width := 1
  height := 1
  bits := ⟨0, 0⟩
  bytesPerLine := 4
  row_le := by cases format <;> decide
  row_lt := by cases format <;> decide
  size_pos _ := ⟨Nat.one_pos, Nat.one_pos⟩

/-- A pixel of `Format_RGB32`. -/
def rgb32Pixel : QImage := onePixel .formatRgb32 (fun h => nomatch h)

/-- A gray pixel. -/
def grayPixel : QImage := onePixel .formatGrayscale8 (fun h => nomatch h)

/-- With blue 0, green 1 and red 2 it comes back with red 0 and blue 2. -/
theorem rgb32_pixel_changes :
    ¬ KeepsColours placesMemory rgb32Pixel (thereAndBack placesMemory rgb32Pixel) := by
  intro h
  exact absurd (h.colour_eq 0 0 Nat.one_pos Nat.one_pos) (by decide)

theorem gray_pixel_kept :
    (KeepsColours placesMemory grayPixel (thereAndBack placesMemory grayPixel) ↔
      ColoursSurvive placesMemory grayPixel) ∧
    (grayPixel.bytesPerLine < 2 ^ 31 → (ColoursSurvive placesMemory grayPixel ↔
      (grayPixel.format = .formatRgb32 → RedIsBlue placesMemory grayPixel))) :=
  keepsColours_iff placesMemory (Or.inr (Or.inr rfl))

end ArmFaceID.Utils
