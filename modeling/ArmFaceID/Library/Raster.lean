import Mathlib.Logic.Basic

/-!
# Rasters over a shared memory

A memory is a family of buffers of cells. A raster is a rectangle of cells in one buffer: where it
starts, how far apart its rows start (`stride`) and how many rows of how many cells it has. Rows do
not overlap (`row_le`), so every cell has a place of its own (`locate_place`).

`Memory.fill` writes all the cells of a raster and nothing else: `read_fill` inside,
`read_fill_of_ne` in other buffers. Two rasters may lie over one buffer, and then a write through
one is seen through the other.
-/

set_option autoImplicit false

namespace ArmFaceID.Library

universe u

variable {β : Type u}

/-- Buffers of cells. Buffers from `next` on are free and hold anything. -/
structure Memory (β : Type u) where
  cell : Nat → Nat → β
  next : Nat

/-- A rectangle of cells in a buffer. -/
structure Raster where
  buffer : Nat
  offset : Nat
  stride : Nat
  height : Nat
  rowLength : Nat
  row_le : rowLength ≤ stride

namespace Raster

/-- The place of a cell in the buffer. -/
def place (w : Raster) (row i : Nat) : Nat := w.offset + row * w.stride + i

/-- The row of a place and where it stands in it, if a cell of the raster is there. -/
def locate (w : Raster) (j : Nat) : Option (Nat × Nat) :=
  let row := (j - w.offset) / w.stride
  let i := (j - w.offset) % w.stride
  if w.offset ≤ j ∧ row < w.height ∧ i < w.rowLength then some (row, i) else none

theorem locate_place (w : Raster) {row i : Nat} (hrow : row < w.height) (hi : i < w.rowLength) :
    w.locate (w.place row i) = some (row, i) := by
  have hlt : i < w.stride := Nat.lt_of_lt_of_le hi w.row_le
  have hsub : w.place row i - w.offset = i + w.stride * row := by
    rw [place, Nat.mul_comm w.stride row]
    omega
  have hdiv : (w.place row i - w.offset) / w.stride = row := by
    rw [hsub, Nat.add_mul_div_left i row (by omega), Nat.div_eq_of_lt hlt, Nat.zero_add]
  have hmod : (w.place row i - w.offset) % w.stride = i := by
    rw [hsub, Nat.add_mul_mod_self_left, Nat.mod_eq_of_lt hlt]
  have hle : w.offset ≤ w.place row i := by
    rw [place]
    omega
  simp only [locate, hdiv, hmod]
  exact if_pos ⟨hle, hrow, hi⟩

theorem of_locate {w : Raster} {j row i : Nat} (h : w.locate j = some (row, i)) :
    row < w.height ∧ i < w.rowLength ∧ w.place row i = j := by
  simp only [locate] at h
  split at h
  · next hin =>
      obtain ⟨hle, hrow, hi⟩ := hin
      cases h
      refine ⟨hrow, hi, ?_⟩
      have hsplit := Nat.div_add_mod (j - w.offset) w.stride
      rw [place, Nat.mul_comm]
      omega
  · cases h

end Raster

namespace Memory

/-- The cell of a raster at a row and a position in it. -/
def read (m : Memory β) (w : Raster) (row i : Nat) : β := m.cell w.buffer (w.place row i)

/-- The memory once a fresh buffer, the one named `m.next`, is in use. Its cells hold what they
held. -/
def alloc (m : Memory β) : Memory β := { m with next := m.next + 1 }

/-- The memory with every cell of a raster written. -/
def fill (m : Memory β) (w : Raster) (f : Nat → Nat → β) : Memory β :=
  { m with cell := fun b j =>
      if b = w.buffer then
        match w.locate j with
        | some (row, i) => f row i
        | none => m.cell b j
      else m.cell b j }

@[simp] theorem alloc_next (m : Memory β) : m.alloc.next = m.next + 1 := rfl

@[simp] theorem read_alloc (m : Memory β) (w : Raster) (row i : Nat) :
    m.alloc.read w row i = m.read w row i := rfl

@[simp] theorem fill_next (m : Memory β) (w : Raster) (f : Nat → Nat → β) :
    (m.fill w f).next = m.next := rfl

theorem read_fill (m : Memory β) (w : Raster) (f : Nat → Nat → β) {row i : Nat}
    (hrow : row < w.height) (hi : i < w.rowLength) : (m.fill w f).read w row i = f row i := by
  simp only [read, fill, if_true, w.locate_place hrow hi]

theorem read_fill_of_ne (m : Memory β) {w w' : Raster} (h : w'.buffer ≠ w.buffer)
    (f : Nat → Nat → β) (row i : Nat) : (m.fill w f).read w' row i = m.read w' row i := by
  simp only [read, fill, if_neg h]

/-- Writing what is there changes nothing. -/
theorem fill_eq_self {m : Memory β} {w : Raster} {f : Nat → Nat → β}
    (h : ∀ row i, row < w.height → i < w.rowLength → f row i = m.read w row i) :
    m.fill w f = m := by
  have hcell : (m.fill w f).cell = m.cell := by
    funext b j
    simp only [fill]
    split
    · next hb =>
        split
        · next row i hloc =>
            obtain ⟨hrow, hi, hplace⟩ := Raster.of_locate hloc
            rw [h row i hrow hi, read, hplace, hb]
        · rfl
    · rfl
  calc m.fill w f = { m with cell := (m.fill w f).cell } := rfl
    _ = m := by rw [hcell]

end Memory

end ArmFaceID.Library
