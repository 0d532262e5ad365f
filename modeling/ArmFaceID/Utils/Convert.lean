import ArmFaceID.Interface
import ArmFaceID.Library.Raster

/-!
# Conversion between `cv::Mat` and `QImage`

`mat_to_qimage` and `qimage_to_mat` of `utils/function.cpp`. Both kinds of image are a header over a
raster in memory. A `cv::Mat` made over `qimage.bits()` lies over the image's own buffer; a `QImage`
made over `mat.data` lies over the matrix's, until it is copied. A buffer is taken to live as long
as something refers to it.
-/

set_option autoImplicit false

namespace ArmFaceID.Utils

open ArmFaceID.Library

/-- A `uchar*`. -/
structure Pointer where
  buffer : Nat
  offset : Nat

/-- The raster that starts at a place, with the given stride. -/
def Pointer.raster (data : Pointer) (height rowLength : Nat)
    (stride : { n : Nat // rowLength ≤ n }) : Raster where
  buffer := data.buffer
  offset := data.offset
  stride := stride.1
  height := height
  rowLength := rowLength
  row_le := stride.2

/-! ## Matrices -/

/-- `cv::Mat::type()`. -/
inductive MatType where
  | cv8uc1
  | cv8uc3
  | cv8uc4
  | other (elemSize : Nat)
  deriving DecidableEq

/-- `cv::Mat::elemSize()`, in bytes. -/
def MatType.elemSize : MatType → Nat
  | .cv8uc1 => 1
  | .cv8uc3 => 3
  | .cv8uc4 => 4
  | .other elemSize => elemSize

/-- `cv::Mat`. The step is not smaller than a row; it is larger in a view of part of a matrix. -/
structure CvMat where
  type : MatType
  rows : Nat
  cols : Nat
  data : Pointer
  step : Nat
  row_le : cols * type.elemSize ≤ step

namespace CvMat

/-- `cv::Mat::empty()`. -/
def Empty (mat : CvMat) : Prop := mat.rows = 0 ∨ mat.cols = 0

instance (mat : CvMat) : Decidable mat.Empty := inferInstanceAs (Decidable (_ ∨ _))

/-- The bytes of the rows. -/
def raster (mat : CvMat) : Raster :=
  mat.data.raster mat.rows (mat.cols * mat.type.elemSize) ⟨mat.step, mat.row_le⟩

/-- The byte of a channel at a row and a column. -/
def byteAt (m : Memory UInt8) (mat : CvMat) (row col channel : Nat) : UInt8 :=
  m.read mat.raster row (col * mat.type.elemSize + channel)

/-- `cv::Mat()`. -/
def noData : CvMat where
  type := .cv8uc1
  rows := 0
  cols := 0
  data := ⟨0, 0⟩
  step := 0
  row_le := Nat.le_of_eq (Nat.zero_mul _)

/-- A matrix with a fresh buffer and no space between its rows. -/
def fresh (m : Memory UInt8) (type : MatType) (rows cols : Nat) : CvMat where
  type := type
  rows := rows
  cols := cols
  data := ⟨m.next, 0⟩
  step := cols * type.elemSize
  row_le := Nat.le_refl _

/-- `dst.create(rows, cols, type)`: the buffer stays when the size and the type are those wanted. -/
def create (m : Memory UInt8) (dst : CvMat) (type : MatType) (rows cols : Nat) :
    CvMat × Memory UInt8 :=
  if dst.type = type ∧ dst.rows = rows ∧ dst.cols = cols then (dst, m)
  else (fresh m type rows cols, m.alloc)

end CvMat

/-- The first and the third byte of every three change places. -/
def swapRedBlue (i : Nat) : Nat := i / 3 * 3 + (2 - i % 3)

/-- `cv::cvtColor(src, dst, code)` on a matrix of three channels, for `COLOR_BGR2RGB` and
`COLOR_RGB2BGR` alike. The source is read before the destination is written, also when they are one
matrix. -/
def cvtColor (m : Memory UInt8) (src dst : CvMat) : CvMat × Memory UInt8 :=
  let (dst, m') := dst.create m .cv8uc3 src.rows src.cols
  (dst, m'.fill dst.raster fun row i => m.read src.raster row (swapRedBlue i))

/-! ## Images -/

/-- `QImage::Format`. `other` stands for `Format_Invalid` and for the formats that neither
conversion names. -/
inductive QImageFormat where
  | formatRgb32
  | formatRgb888
  | formatGrayscale8
  | formatRgba8888
  | other
  deriving DecidableEq

/-- Bytes of a pixel; those of `other` are never asked for. -/
def QImageFormat.pixelSize : QImageFormat → Nat
  | .formatRgb32 => 4
  | .formatRgb888 => 3
  | .formatGrayscale8 => 1
  | .formatRgba8888 => 4
  | .other => 0

/-- `QImage`. A row's length is an `int`, and only a null image has no pixels. -/
structure QImage where
  format : QImageFormat
  width : Nat
  height : Nat
  bits : Pointer
  bytesPerLine : Nat
  row_le : width * format.pixelSize ≤ bytesPerLine
  row_lt : width * format.pixelSize < 2 ^ 31
  size_pos : format ≠ .other → 0 < width ∧ 0 < height

/-- `QImage::bytesPerLine()` of an image that Qt lays out: rows start at multiples of four bytes. -/
def alignedLine (rowLength : Nat) : Nat := (rowLength + 3) / 4 * 4

theorem le_alignedLine (rowLength : Nat) : rowLength ≤ alignedLine rowLength := by
  rw [alignedLine]
  omega

namespace QImage

/-- The bytes of the pixels. -/
def raster (image : QImage) : Raster :=
  image.bits.raster image.height (image.width * image.format.pixelSize)
    ⟨image.bytesPerLine, image.row_le⟩

/-- `QImage()`. -/
def null : QImage where
  format := .other
  width := 0
  height := 0
  bits := ⟨0, 0⟩
  bytesPerLine := 0
  row_le := Nat.le_of_eq (Nat.zero_mul _)
  row_lt := Nat.lt_of_le_of_lt (Nat.le_of_eq (Nat.zero_mul _)) (Nat.two_pow_pos 31)
  size_pos h := absurd rfl h

/-- The stride of `QImage(data, width, height, bytesPerLine, format)` for rows of that many bytes:
the one given, if rows fit in it, or Qt's own when none is given. -/
def lineStride (rowLength : Nat) (bytesPerLine : Int) : Option { n : Nat // rowLength ≤ n } :=
  if 0 < bytesPerLine then
    if h : rowLength ≤ bytesPerLine.toNat then some ⟨bytesPerLine.toNat, h⟩ else none
  else some ⟨alignedLine rowLength, le_alignedLine rowLength⟩

/-- `QImage(data, width, height, bytesPerLine, format)`: an image over memory that is there already,
null if the sizes do not go together. -/
def overData (data : Pointer) (width height : Nat) (bytesPerLine : Int) (format : QImageFormat) :
    QImage :=
  if h : 0 < width ∧ 0 < height ∧ width * format.pixelSize < 2 ^ 31 then
    match lineStride (width * format.pixelSize) bytesPerLine with
    | some stride =>
        ⟨format, width, height, data, stride.1, stride.2, h.2.2, fun _ => ⟨h.1, h.2.1⟩⟩
    | none => null
  else null

/-- An image of the same size and format with a fresh buffer. -/
def fresh (m : Memory UInt8) (image : QImage) : QImage :=
  { image with
    bits := ⟨m.next, 0⟩
    bytesPerLine := alignedLine (image.width * image.format.pixelSize)
    row_le := le_alignedLine _ }

/-- `QImage::copy()`. The bytes between the rows of the copy are what the fresh buffer holds. -/
def copy (m : Memory UInt8) (image : QImage) : QImage × Memory UInt8 :=
  if image.width = 0 then (null, m)
  else (image.fresh m, m.alloc.fill (image.fresh m).raster (m.read image.raster))

end QImage

/-! ## The conversions -/

/-- `mat_to_qimage`. -/
def matToQimage (m : Memory UInt8) (mat : CvMat) : QImage × Memory UInt8 :=
  if mat.Empty then (.null, m)
  else
    match mat.type with
    | .cv8uc1 =>
        (QImage.overData mat.data mat.cols mat.rows (toInt32 mat.step) .formatGrayscale8).copy m
    | .cv8uc3 =>
        let (matTmp, m) := cvtColor m mat .noData
        (QImage.overData matTmp.data matTmp.cols matTmp.rows (toInt32 matTmp.step)
          .formatRgb888).copy m
    | .cv8uc4 =>
        (QImage.overData mat.data mat.cols mat.rows (toInt32 mat.step) .formatRgba8888).copy m
    | .other _ => (.null, m)

/-- `cv::Mat(qimage.height(), qimage.width(), type, qimage.bits(), qimage.bytesPerLine())`, for a
type whose elements are as large as the pixels. -/
def CvMat.overBits (image : QImage) (type : MatType) (h : type.elemSize = image.format.pixelSize) :
    CvMat where
  type := type
  rows := image.height
  cols := image.width
  data := image.bits
  step := image.bytesPerLine
  row_le := by
    rw [h]
    exact image.row_le

theorem elemSize_of_rgb32 {image : QImage} (h : image.format = .formatRgb32) :
    MatType.cv8uc4.elemSize = image.format.pixelSize := by
  rw [h]
  rfl

theorem elemSize_of_rgb888 {image : QImage} (h : image.format = .formatRgb888) :
    MatType.cv8uc3.elemSize = image.format.pixelSize := by
  rw [h]
  rfl

theorem elemSize_of_grayscale8 {image : QImage} (h : image.format = .formatGrayscale8) :
    MatType.cv8uc1.elemSize = image.format.pixelSize := by
  rw [h]
  rfl

/-- `qimage_to_mat`. -/
def qimageToMat (m : Memory UInt8) (image : QImage) : CvMat × Memory UInt8 :=
  match h : image.format with
  | .formatRgb32 => (.overBits image .cv8uc4 (elemSize_of_rgb32 h), m)
  | .formatRgb888 =>
      let mat := CvMat.overBits image .cv8uc3 (elemSize_of_rgb888 h)
      -- the conversion is made in place, in the image's own buffer
      cvtColor m mat mat
  | .formatGrayscale8 => (.overBits image .cv8uc1 (elemSize_of_grayscale8 h), m)
  | _ => (.noData, m)

/-! ## What the conversions do -/

@[simp] theorem swapRedBlue_swapRedBlue (i : Nat) : swapRedBlue (swapRedBlue i) = i := by
  simp only [swapRedBlue]
  omega

theorem swapRedBlue_lt {i cols : Nat} (h : i < cols * 3) : swapRedBlue i < cols * 3 := by
  rw [swapRedBlue]
  omega

/-- A channel of a pixel of three channels. -/
theorem swapRedBlue_channel (col : Nat) {channel : Nat} (h : channel < 3) :
    swapRedBlue (col * 3 + channel) = col * 3 + (2 - channel) := by
  rw [swapRedBlue]
  omega

/-- A byte of a pixel lies in the row. -/
theorem pixel_lt {cols size col channel : Nat} (hcol : col < cols) (hchannel : channel < size) :
    col * size + channel < cols * size := by
  have hle : (col + 1) * size ≤ cols * size := Nat.mul_le_mul_right size hcol
  rw [Nat.add_mul, Nat.one_mul] at hle
  omega

section Specs

variable (m : Memory UInt8)

/-- Into a matrix without data the result goes to a fresh buffer. -/
theorem cvtColor_noData {mat : CvMat} (h : ¬ mat.Empty) :
    cvtColor m mat .noData = (.fresh m .cv8uc3 mat.rows mat.cols,
      m.alloc.fill (CvMat.fresh m .cv8uc3 mat.rows mat.cols).raster fun row i =>
        m.read mat.raster row (swapRedBlue i)) := by
  have hsize : ¬ (CvMat.noData.type = .cv8uc3 ∧ CvMat.noData.rows = mat.rows ∧
      CvMat.noData.cols = mat.cols) := by
    rintro ⟨-, hrows, -⟩
    exact h (Or.inl hrows.symm)
  simp only [cvtColor, CvMat.create, if_neg hsize]

/-- Into the source itself the result overwrites the source. -/
theorem cvtColor_self {mat : CvMat} (h : mat.type = .cv8uc3) :
    cvtColor m mat mat = (mat, m.fill mat.raster fun row i =>
      m.read mat.raster row (swapRedBlue i)) := by
  simp only [cvtColor, CvMat.create, h, and_self, if_true]

theorem overBits_raster {image : QImage} {type : MatType}
    (h : type.elemSize = image.format.pixelSize) :
    (CvMat.overBits image type h).raster = image.raster := by
  simp only [CvMat.raster, CvMat.overBits, QImage.raster, Pointer.raster, h]

variable {m}

theorem qimageToMat_rgb32 {image : QImage} (h : image.format = .formatRgb32) :
    qimageToMat m image = (.overBits image .cv8uc4 (elemSize_of_rgb32 h), m) := by
  unfold qimageToMat
  split
  · rfl
  · next h' => cases h.symm.trans h'
  · next h' => cases h.symm.trans h'
  · next hne _ _ => exact absurd h hne

theorem qimageToMat_grayscale8 {image : QImage} (h : image.format = .formatGrayscale8) :
    qimageToMat m image = (.overBits image .cv8uc1 (elemSize_of_grayscale8 h), m) := by
  unfold qimageToMat
  split
  · next h' => cases h.symm.trans h'
  · next h' => cases h.symm.trans h'
  · rfl
  · next _ _ hne => exact absurd h hne

/-- The only branch that writes: the image's own bytes change places. -/
theorem qimageToMat_rgb888 {image : QImage} (h : image.format = .formatRgb888) :
    qimageToMat m image = (.overBits image .cv8uc3 (elemSize_of_rgb888 h),
      m.fill image.raster fun row i => m.read image.raster row (swapRedBlue i)) := by
  unfold qimageToMat
  split
  · next h' => cases h.symm.trans h'
  · rw [cvtColor_self m rfl, overBits_raster]
  · next h' => cases h.symm.trans h'
  · next _ hne _ => exact absurd h hne

theorem qimageToMat_snd_of_ne {image : QImage} (h : image.format ≠ .formatRgb888) :
    (qimageToMat m image).2 = m := by
  unfold qimageToMat
  split
  · rfl
  · next h' => exact absurd h' h
  · rfl
  · rfl

/-- A stride that fits an `int` is taken as it is. -/
theorem lineStride_of_lt {rowLength step : Nat} (hpos : 0 < rowLength) (hle : rowLength ≤ step)
    (hlt : step < 2 ^ 31) : QImage.lineStride rowLength (toInt32 step) = some ⟨step, hle⟩ := by
  have hint : toInt32 (step : Int) = step := toInt32_of_lt (by omega) (by omega)
  have hstep : (0 : Int) < step := by omega
  simp only [QImage.lineStride, hint, if_pos hstep, Int.toNat_natCast, dif_pos hle]

/-- What a copy into a fresh `QImage` leaves behind: the bytes of a raster in the order `order`, and
every buffer in use before as it was. -/
structure CopyOf (m : Memory UInt8) (source : Raster) (order : Nat → Nat) (format : QImageFormat)
    (width height : Nat) (result : QImage × Memory UInt8) : Prop where
  format_eq : result.1.format = format
  width_eq : result.1.width = width
  height_eq : result.1.height = height
  read_eq : ∀ row i, row < height → i < width * format.pixelSize →
    result.2.read result.1.raster row i = m.read source row (order i)
  frame : ∀ w : Raster, w.buffer < m.next → ∀ row i, result.2.read w row i = m.read w row i
  fresh : m.next ≤ result.1.bits.buffer

theorem copyOf_copy (image : QImage) (h : image.width ≠ 0) :
    CopyOf m image.raster id image.format image.width image.height (image.copy m) := by
  rw [QImage.copy, if_neg h]
  refine ⟨rfl, rfl, rfl, ?_, ?_, Nat.le_refl _⟩
  · intro row i hrow hi
    exact Memory.read_fill _ (image.fresh m).raster _ hrow hi
  · intro w hw row i
    -- the copy is in the buffer `m.next`
    have hne : w.buffer ≠ (image.fresh m).raster.buffer := Nat.ne_of_lt hw
    rw [Memory.read_fill_of_ne _ hne, Memory.read_alloc]

/-- The copy of an image over memory that Qt does not refuse. -/
theorem copyOf_over (data : Pointer) {width height : Nat} {bytesPerLine : Int}
    {format : QImageFormat} (hw : 0 < width) (hh : 0 < height)
    (hlt : width * format.pixelSize < 2 ^ 31)
    {stride : { n : Nat // width * format.pixelSize ≤ n }}
    (hstride : QImage.lineStride (width * format.pixelSize) bytesPerLine = some stride) :
    CopyOf m (data.raster height (width * format.pixelSize) stride) id format width height
      ((QImage.overData data width height bytesPerLine format).copy m) := by
  let image : QImage :=
    ⟨format, width, height, data, stride.1, stride.2, hlt, fun _ => ⟨hw, hh⟩⟩
  have hover : QImage.overData data width height bytesPerLine format = image := by
    simp only [QImage.overData, dif_pos (And.intro hw (And.intro hh hlt)), hstride, image]
  rw [hover]
  exact copyOf_copy image (Nat.ne_of_gt hw)

/-- An image over memory with a stride that Qt refuses is null, and so is its copy. -/
theorem copy_over_null {data : Pointer} {width height : Nat} {bytesPerLine : Int}
    {format : QImageFormat}
    (hstride : QImage.lineStride (width * format.pixelSize) bytesPerLine = none) :
    (QImage.overData data width height bytesPerLine format).copy m = (.null, m) := by
  have hover : QImage.overData data width height bytesPerLine format = .null := by
    simp only [QImage.overData, hstride]
    split <;> rfl
  rw [hover]
  rfl

/-- `mat_to_qimage` of an empty matrix, or of a type it does not name, is a null image. -/
theorem matToQimage_null {mat : CvMat}
    (h : mat.Empty ∨ mat.type ≠ .cv8uc1 ∧ mat.type ≠ .cv8uc3 ∧ mat.type ≠ .cv8uc4) :
    matToQimage m mat = (.null, m) := by
  unfold matToQimage
  rcases h with hempty | ⟨h1, h3, h4⟩
  · rw [if_pos hempty]
  · split
    · rfl
    · split
      · next h => exact absurd h h1
      · next h => exact absurd h h3
      · next h => exact absurd h h4
      · rfl

theorem CvMat.pos_of_not_empty {mat : CvMat} (h : ¬ mat.Empty) : 0 < mat.cols ∧ 0 < mat.rows :=
  ⟨Nat.pos_of_ne_zero fun hcols => h (Or.inr hcols),
    Nat.pos_of_ne_zero fun hrows => h (Or.inl hrows)⟩

theorem matToQimage_cv8uc1 {mat : CvMat} (htype : mat.type = .cv8uc1) (hne : ¬ mat.Empty) :
    matToQimage m mat =
      (QImage.overData mat.data mat.cols mat.rows (toInt32 mat.step) .formatGrayscale8).copy m := by
  simp only [matToQimage, if_neg hne, htype]

theorem matToQimage_cv8uc4 {mat : CvMat} (htype : mat.type = .cv8uc4) (hne : ¬ mat.Empty) :
    matToQimage m mat =
      (QImage.overData mat.data mat.cols mat.rows (toInt32 mat.step) .formatRgba8888).copy m := by
  simp only [matToQimage, if_neg hne, htype]

/-- One channel is copied as it is. -/
theorem copyOf_matToQimage_cv8uc1 {mat : CvMat} (htype : mat.type = .cv8uc1) (hne : ¬ mat.Empty)
    (hstep : mat.step < 2 ^ 31) :
    CopyOf m mat.raster id .formatGrayscale8 mat.cols mat.rows (matToQimage m mat) := by
  obtain ⟨hcols, hrows⟩ := CvMat.pos_of_not_empty hne
  rw [matToQimage_cv8uc1 htype hne]
  obtain ⟨type, rows, cols, data, step, hle⟩ := mat
  cases htype
  have hsize : 0 < cols * QImageFormat.formatGrayscale8.pixelSize := Nat.mul_pos hcols Nat.one_pos
  exact copyOf_over data hcols hrows (Nat.lt_of_le_of_lt hle hstep)
    (lineStride_of_lt hsize hle hstep)

/-- Three channels go through a matrix of their own, which has no space between its rows. -/
theorem copyOf_matToQimage_cv8uc3 {mat : CvMat} (htype : mat.type = .cv8uc3) (hne : ¬ mat.Empty)
    (hlt : mat.cols * 3 < 2 ^ 31) :
    CopyOf m mat.raster swapRedBlue .formatRgb888 mat.cols mat.rows (matToQimage m mat) := by
  let tmp := CvMat.fresh m .cv8uc3 mat.rows mat.cols
  let m' := m.alloc.fill tmp.raster fun row i => m.read mat.raster row (swapRedBlue i)
  have hconv : matToQimage m mat =
      (QImage.overData tmp.data tmp.cols tmp.rows (toInt32 tmp.step) .formatRgb888).copy m' := by
    simp only [matToQimage, if_neg hne, htype, cvtColor_noData m hne, tmp, m']
  obtain ⟨hcols, hrows⟩ := CvMat.pos_of_not_empty hne
  have hsize : mat.cols * QImageFormat.formatRgb888.pixelSize < 2 ^ 31 := hlt
  have hstride : QImage.lineStride (mat.cols * QImageFormat.formatRgb888.pixelSize)
      (toInt32 tmp.step) = some ⟨tmp.step, tmp.row_le⟩ :=
    lineStride_of_lt (Nat.mul_pos hcols (Nat.succ_pos 2)) tmp.row_le hlt
  have hcopy : CopyOf m' tmp.raster id .formatRgb888 mat.cols mat.rows
      ((QImage.overData tmp.data tmp.cols tmp.rows (toInt32 tmp.step) .formatRgb888).copy m') :=
    copyOf_over tmp.data hcols hrows hsize hstride
  rw [hconv]
  refine ⟨hcopy.format_eq, hcopy.width_eq, hcopy.height_eq, ?_, ?_, ?_⟩
  · intro row i hrow hi
    rw [hcopy.read_eq row i hrow hi]
    exact Memory.read_fill m.alloc tmp.raster _ hrow hi
  · intro w hw row i
    rw [hcopy.frame w (Nat.lt_succ_of_lt hw) row i]
    have hbuffer : w.buffer ≠ tmp.raster.buffer := Nat.ne_of_lt hw
    rw [Memory.read_fill_of_ne _ hbuffer, Memory.read_alloc]
  · exact Nat.le_of_succ_le hcopy.fresh

end Specs

end ArmFaceID.Utils
