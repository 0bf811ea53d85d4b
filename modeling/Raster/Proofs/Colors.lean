import Raster.Bitmap
import Raster.Proofs.Blocks
import Mathlib

/-!
# The colors of a bitmap

A bitmap is a grid of colors: every row has as many colors as the bitmap is wide
(`length_of_mem_rows`), and the bytes of the colors, row by row, are the bytes of the bitmap
(`flatMap_colors`).  The file also has the bitmap with another alpha channel, `withAlpha`.
-/

namespace Raster.Bitmap

/-- The colors that bytes hold, four bytes a color. -/
lemma filterMap_pieces {n : Nat} {bytes : Bytes} (h : bytes.length = n * 4) :
    ((pieces n 4 bytes).filterMap Color.ofBytes?).length = n ∧
      ((pieces n 4 bytes).filterMap Color.ofBytes?).flatMap Color.toBytes = bytes := by
  induction n generalizing bytes with
  | zero =>
    rw [List.length_eq_zero_iff.1 (h.trans (Nat.zero_mul 4))]
    exact ⟨rfl, rfl⟩
  | succ n ih =>
    obtain ⟨red, green, blue, alpha, htake⟩ :=
      List.length_eq_four.1 (show (bytes.take 4).length = 4 from by simp; omega)
    obtain ⟨hlength, hbytes⟩ := ih (show (bytes.drop 4).length = n * 4 from by simp; omega)
    have hfirst : Color.ofBytes? (bytes.take 4) = some ⟨red, green, blue, alpha⟩ := by
      rw [htake]
      rfl
    rw [pieces_succ, List.filterMap_cons_some hfirst, List.flatMap_cons, List.length_cons, hlength,
      hbytes]
    refine ⟨rfl, ?_⟩
    conv_rhs => rw [← List.take_append_drop 4 bytes, htake]
    rfl

/-- The colors of the pixels, row by row from the top left corner. -/
def colors (b : Bitmap) : List Color := b.rows.flatten

variable {b : Bitmap}

lemma length_rows (b : Bitmap) : b.rows.length = b.height := by
  simp [rows]

lemma length_rowBytes {bytes : Bytes} (h : bytes ∈ pieces b.height (b.width * 4) b.pixels) :
    bytes.length = b.width * 4 := by
  refine length_of_mem_pieces (le_of_eq ?_) h
  rw [b.length_pixels]
  ring

lemma length_of_mem_rows {row : List Color} (h : row ∈ b.rows) : row.length = b.width := by
  obtain ⟨bytes, hbytes, rfl⟩ := List.mem_map.1 h
  exact (filterMap_pieces (length_rowBytes hbytes)).1

lemma length_colors (b : Bitmap) : b.colors.length = b.height * b.width := by
  rw [colors, ← List.flatMap_id, length_blocks (f := id) fun _ hrow => length_of_mem_rows hrow,
    length_rows]

/-- The color in column `x` and row `y`. -/
lemma getElem?_colors {row : List Color} {x y : Nat} (hrow : b.rows[y]? = some row)
    (hx : x < b.width) : b.colors[y * b.width + x]? = row[x]? := by
  rw [colors, ← List.flatMap_id]
  exact getElem?_blocks (fun _ hrow => length_of_mem_rows hrow) hrow hx

/-- A bitmap is made of the bytes of its colors. -/
lemma flatMap_colors (b : Bitmap) : b.colors.flatMap Color.toBytes = b.pixels := by
  have hrow : ∀ bytes ∈ pieces b.height (b.width * 4) b.pixels,
      ((pieces b.width 4 bytes).filterMap Color.ofBytes?).flatMap Color.toBytes = bytes :=
    fun bytes hbytes => (filterMap_pieces (length_rowBytes hbytes)).2
  rw [colors, rows, ← List.flatMap_def, List.flatMap_assoc]
  calc (pieces b.height (b.width * 4) b.pixels).flatMap _
      = (pieces b.height (b.width * 4) b.pixels).flatMap id := List.flatMap_congr hrow
    _ = b.pixels.take (b.height * (b.width * 4)) := by rw [List.flatMap_id, flatten_pieces]
    _ = b.pixels := List.take_of_length_le (by rw [b.length_pixels]; exact le_of_eq (by ring))

/-- The bitmap with the same colors, each with the given alpha byte. -/
def withAlpha (alpha : UInt8) (b : Bitmap) : Bitmap where
  width := b.width
  height := b.height
  pixels := b.pixels.mapIdx fun k byte => if k % 4 = 3 then alpha else byte
  width_pos := b.width_pos
  height_pos := b.height_pos
  length_pixels := by rw [List.length_mapIdx, b.length_pixels]

/-- Every fourth byte is an alpha byte. -/
lemma mapIdx_toBytes (alpha : UInt8) (colors : List Color) :
    (colors.flatMap Color.toBytes).mapIdx (fun k byte => if k % 4 = 3 then alpha else byte) =
      (colors.map fun c => { c with alpha := alpha }).flatMap Color.toBytes := by
  induction colors with
  | nil => rfl
  | cons c colors ih =>
    rw [List.flatMap_cons, List.mapIdx_append, c.length_toBytes, List.map_cons, List.flatMap_cons,
      ← ih]
    simp only [Nat.add_mod_right]
    rfl

lemma pixels_withAlpha (alpha : UInt8) (b : Bitmap) :
    (b.withAlpha alpha).pixels =
      (b.colors.map fun c => { c with alpha := alpha }).flatMap Color.toBytes := by
  rw [← mapIdx_toBytes, flatMap_colors]
  rfl

end Raster.Bitmap
