import ArmFaceID.Utils.RoundTrips

/-!
# `qimage_to_mat` and the pixels of its argument

The argument is a `const QImage&`, but for `Format_RGB888` the conversion is made in the image's own
buffer. The image, and every image that shares its data, is left as it was exactly when red and blue
agree in every pixel; only then do repeated calls give equal matrices (`leavesUnchanged_iff`).
-/

set_option autoImplicit false

namespace ArmFaceID.Utils

open ArmFaceID.Library

/-- The memory after a number of calls of `qimage_to_mat(image)`. -/
def afterCalls (m : Memory UInt8) (image : QImage) : Nat → Memory UInt8
  | 0 => m
  | n + 1 => (qimageToMat (afterCalls m image n) image).2

/-- What a `const` argument promises: `qimage_to_mat(image)` changes no byte on the
rows of an image with the same data, and all calls give equal matrices. -/
structure LeavesUnchanged (m : Memory UInt8) (image : QImage) : Prop where
  pixels : ∀ shared : QImage, shared.bits.buffer = image.bits.buffer → ∀ row i,
    row < shared.height → i < shared.bytesPerLine →
      (qimageToMat m image).2.read shared.raster row i = m.read shared.raster row i
  calls : ∀ k n, SameMatrix (qimageToMat (afterCalls m image k) image)
    (qimageToMat (afterCalls m image n) image)

variable {m : Memory UInt8} {image : QImage}

theorem colour_rgb888 (h : image.format = .formatRgb888) (row col : Nat) :
    image.colour m row col =
      ⟨m.read image.raster row (col * 3), m.read image.raster row (col * 3 + 1),
        m.read image.raster row (col * 3 + 2)⟩ := by
  rw [QImage.colour, colourAt, h]
  rfl

/-- A byte of a row belongs to some pixel, and the exchange takes it to the same pixel. -/
theorem read_swapRedBlue (h : image.format = .formatRgb888) (hred : RedIsBlue m image) {row i : Nat}
    (hrow : row < image.height) (hi : i < image.width * 3) :
    m.read image.raster row (swapRedBlue i) = m.read image.raster row i := by
  have hpixel : m.read image.raster row (i / 3 * 3) = m.read image.raster row (i / 3 * 3 + 2) := by
    have heq := hred row (i / 3) hrow (by omega)
    rw [colour_rgb888 h] at heq
    exact heq
  -- the byte is the red, the green or the blue one
  obtain h0 | h1 | h2 : i % 3 = 0 ∨ i % 3 = 1 ∨ i % 3 = 2 := by omega
  · have hswap : swapRedBlue i = i / 3 * 3 + 2 := by rw [swapRedBlue, h0]
    have hi0 : i / 3 * 3 = i := by omega
    rw [hswap, ← hpixel, hi0]
  · have hswap : swapRedBlue i = i := by
      rw [swapRedBlue, h1]
      omega
    rw [hswap]
  · have hswap : swapRedBlue i = i / 3 * 3 := by
      rw [swapRedBlue, h2, Nat.sub_self, Nat.add_zero]
    have hi2 : i / 3 * 3 + 2 = i := by omega
    rw [hswap, hpixel, hi2]

/-- Then the call changes no byte of memory. -/
theorem qimageToMat_snd_eq (h : image.format = .formatRgb888 → RedIsBlue m image) :
    (qimageToMat m image).2 = m := by
  by_cases hrgb : image.format = .formatRgb888
  · rw [qimageToMat_rgb888 hrgb]
    apply Memory.fill_eq_self
    intro row i hrow hi
    have hi' : i < image.width * image.format.pixelSize := hi
    rw [hrgb] at hi'
    exact read_swapRedBlue hrgb (h hrgb) hrow hi'
  · exact qimageToMat_snd_of_ne hrgb

theorem afterCalls_eq (h : image.format = .formatRgb888 → RedIsBlue m image) (n : Nat) :
    afterCalls m image n = m := by
  induction n with
  | zero => rfl
  | succ n ih =>
      rw [afterCalls, ih]
      exact qimageToMat_snd_eq h

/-- An image in `Format_RGB888` shows the exchange itself. -/
theorem redIsBlue_of_leavesUnchanged (h : LeavesUnchanged m image)
    (hrgb : image.format = .formatRgb888) : RedIsBlue m image := by
  intro row col hrow hcol
  have hsize := image.row_le
  rw [hrgb] at hsize
  have hin : col * 3 + 0 < image.width * 3 := pixel_lt hcol (Nat.succ_pos 2)
  have hlen : col * 3 < image.raster.rowLength := by
    show _ < image.width * image.format.pixelSize
    rw [hrgb]
    exact hin
  have hsame := h.pixels image rfl row (col * 3) hrow (Nat.lt_of_lt_of_le hin hsize)
  rw [qimageToMat_rgb888 hrgb, Memory.read_fill _ _ _ hrow hlen] at hsame
  have hswap : swapRedBlue (col * 3) = col * 3 + 2 := swapRedBlue_channel col (Nat.succ_pos 2)
  rw [hswap] at hsame
  rw [colour_rgb888 hrgb]
  exact hsame.symm

variable (m image) in
/-- `qimage_to_mat` leaves its argument and the images sharing its data unchanged, and answers the
same at every call, exactly when the format is not `Format_RGB888` or red and blue agree in every
pixel. -/
theorem leavesUnchanged_iff :
    LeavesUnchanged m image ↔ (image.format = .formatRgb888 → RedIsBlue m image) := by
  constructor
  · exact redIsBlue_of_leavesUnchanged
  · intro h
    refine ⟨?_, ?_⟩
    · intro shared _ row i _ _
      rw [qimageToMat_snd_eq h]
    · intro k n
      rw [afterCalls_eq h k, afterCalls_eq h n]
      exact ⟨rfl, rfl, rfl, fun _ _ _ _ _ _ => rfl⟩

/-- A pixel of `Format_RGB888`. -/
def rgb888Pixel : QImage := onePixel .formatRgb888 (fun h => nomatch h)

/-- With red 0, green 1 and blue 2, the first call makes red 2. -/
theorem rgb888_pixel_changed : ¬ LeavesUnchanged placesMemory rgb888Pixel := by
  intro h
  exact absurd (h.pixels rgb888Pixel rfl 0 0 Nat.one_pos (by decide)) (by decide)

end ArmFaceID.Utils
