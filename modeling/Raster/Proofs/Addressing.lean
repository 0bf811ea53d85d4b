import Raster.Proofs.GuardedPicture
import Raster.Proofs.Written
import Mathlib

/-!
# Pixels by their places

A bitmap is one list of bytes, and a pixel is looked up in it by its column and its row.  The place
`(y * width + x) * 4` is computed without a check, after column and row alone have been compared
with the dimensions.  `Bitmap.RowMajor` says that this is enough, and that it makes the bitmap a
view of its bytes: there is a color in every place of the grid and in no other, and the colors, row
by row, are the bytes.  The bitmaps that can be made of some bytes are such views
(`Bitmap.ofPixels_rowMajor`).

The rows of a bitmap are cut from its bytes in another way, piece by piece, so what has to be shown
is that both ways lead to the same colors (`Bitmap.rows_eq_map_pixel`).
-/

namespace Raster

/-- Four bytes are those of the color that they make. -/
lemma Color.toBytes_of_ofBytes? {bytes : Bytes} {c : Color} (h : ofBytes? bytes = some c) :
    c.toBytes = bytes := by
  unfold ofBytes? at h
  split at h
  · obtain rfl := Option.some.inj h
    rfl
  · cases h

namespace Bitmap

variable {b b' : Bitmap} {x y : Nat}

/-! ## Colors in the places of a grid -/

lemma pixel?_eq_none (h : ¬ (x < b.width ∧ y < b.height)) : b.pixel? x y = none := if_neg h

lemma isSome_pixel?_iff : (b.pixel? x y).isSome ↔ x < b.width ∧ y < b.height := by
  constructor
  · intro h
    by_contra hout
    rw [pixel?_eq_none hout] at h
    cases h
  · rintro ⟨hx, hy⟩
    obtain ⟨row, c, -, -, hc⟩ := b.exists_pixel hx hy
    rw [hc]
    rfl

/-- A row has the colors that are looked up in its places. -/
lemma getElem?_row {row : List Color} (hrow : b.rows[y]? = some row) (hx : x < b.width) :
    row[x]? = b.pixel? x y := by
  have hy : y < b.height := by
    rw [← b.length_rows]
    exact (List.getElem?_eq_some_iff.1 hrow).1
  obtain ⟨row', c, hrow', hc, hpixel⟩ := b.exists_pixel hx hy
  obtain rfl := Option.some.inj (hrow.symm.trans hrow')
  rw [hc, hpixel]

/-- A list is found again by looking up its places in turn. -/
lemma filterMap_range_eq {α : Type} {l : List α} {f : Nat → Option α} {n : Nat}
    (hlength : l.length = n) (h : ∀ k < n, l[k]? = f k) : (List.range n).filterMap f = l := by
  subst hlength
  induction l using List.reverseRecOn generalizing f with
  | nil => rfl
  | append_singleton l a ih =>
    rw [List.length_append, List.length_singleton] at h ⊢
    have hfirst : (List.range l.length).filterMap f = l := ih fun k hk => by
      rw [← h k (by omega), List.getElem?_append_left hk]
    have hlast : f l.length = some a := by
      rw [← h _ (Nat.lt_succ_self _), List.getElem?_concat_length]
    rw [List.range_succ, List.filterMap_append, hfirst, List.filterMap_cons_some hlast,
      List.filterMap_nil]

/-- The rows, as they are cut from the bytes, have the colors that are looked up one by one. -/
lemma rows_eq_map_pixel (b : Bitmap) :
    b.rows = (List.range b.height).map fun y =>
      (List.range b.width).filterMap fun x => b.pixel? x y := by
  refine List.ext_getElem? fun y => ?_
  rw [List.getElem?_map]
  by_cases hy : y < b.height
  · obtain ⟨row, hrow⟩ : ∃ row, b.rows[y]? = some row :=
      ⟨_, List.getElem?_eq_getElem (b.length_rows.symm ▸ hy)⟩
    have hwidth := length_of_mem_rows (List.mem_of_getElem? hrow)
    rw [hrow, List.getElem?_range hy, Option.map_some,
      filterMap_range_eq hwidth fun x hx => getElem?_row hrow hx]
  · rw [List.getElem?_eq_none (by rw [b.length_rows]; omega),
      List.getElem?_eq_none (by rw [List.length_range]; omega), Option.map_none]

/-- The colors of the places of the grid, row by row from the top left corner. -/
def shown (b : Bitmap) : List Color :=
  (List.range b.height).flatMap fun y => (List.range b.width).filterMap fun x => b.pixel? x y

lemma flatMap_shown (b : Bitmap) : b.shown.flatMap Color.toBytes = b.pixels := by
  rw [← flatMap_colors, colors, rows_eq_map_pixel, ← List.flatMap_def, shown]

/-- Bitmaps are told apart by the colors in their places. -/
lemma eq_iff_pixel? (hwidth : b.width = b'.width) (hheight : b.height = b'.height) :
    b = b' ↔ ∀ x y, b.pixel? x y = b'.pixel? x y := by
  constructor
  · rintro rfl x y
    rfl
  · intro h
    have hshown : b.shown = b'.shown := by simp only [shown, hwidth, hheight, h]
    have hpixels : b.pixels = b'.pixels := by rw [← flatMap_shown, hshown, flatMap_shown]
    cases b
    cases b'
    exact (mk.injEq ..).mpr ⟨hwidth, hheight, hpixels⟩

end Bitmap

/-! ## The look-up on a machine -/

namespace Machine

/-- The four bytes of the pixel in column `x` and row `y`, if there is one.  Their place is a word
of 64 bits, and they are taken from there without asking whether they are all present. -/
def pixelBytes (b : Bitmap) (x y : Nat) : Except Stop (Option Bytes) :=
  if b.width ≤ x ∨ b.height ≤ y then .ok none
  else do
    let row ← mul 64 y b.width
    let place ← add 64 row x
    let index ← mul 64 place 4
    let rest ← dropFirst b.pixels index
    let first ← takeFirst rest 4
    let rgba ← guarded (first.length = 4) .assertion first
    return some rgba

variable {b : Bitmap} {x y : Nat}

/-- The bytes of a pixel of the grid are within the bytes of the bitmap. -/
lemma place_le (hx : x < b.width) (hy : y < b.height) :
    (y * b.width + x) * 4 + 4 ≤ b.pixels.length := by
  have hplace := mul_add_lt hy hx
  rw [b.length_pixels, Nat.mul_comm b.width]
  omega

/-- A bitmap whose bytes can be counted in words is looked up as on numbers. -/
lemma pixelBytes_eq (h : b.pixels.length < 2 ^ 64) (x y : Nat) :
    pixelBytes b x y = .ok ((b.pixel? x y).map Color.toBytes) := by
  by_cases hin : x < b.width ∧ y < b.height
  · obtain ⟨hx, hy⟩ := hin
    have hle := place_le hx hy
    obtain ⟨row, c, -, -, hpixel⟩ := b.exists_pixel hx hy
    rw [hpixel]
    rw [Bitmap.pixel?, if_pos ⟨hx, hy⟩] at hpixel
    have hbytes := Color.toBytes_of_ofBytes? hpixel
    have hrest : 4 ≤ (b.pixels.drop ((y * b.width + x) * 4)).length := by
      rw [List.length_drop]
      omega
    rw [pixelBytes, if_neg (by omega), mul, guarded_of (by omega), ok_bind, add,
      guarded_of (by omega), ok_bind, mul, guarded_of (by omega), ok_bind, dropFirst,
      guarded_of (by omega), ok_bind, takeFirst, guarded_of hrest, ok_bind, ← hbytes,
      guarded_of c.length_toBytes]
    rfl
  · rw [pixelBytes, if_pos (by omega), Bitmap.pixel?_eq_none hin]
    rfl

/-- Dimensions whose product fits into a word are judged as on numbers. -/
lemma fromPixels_eq {width height : Nat} (h : width * height * 4 < 2 ^ 64) (pixels : Bytes) :
    fromPixels width height pixels = refuse (Bitmap.ofPixels width height pixels) := by
  rw [fromPixels, mul, guarded_of (by omega), ok_bind, mul, guarded_of h]
  rfl

end Machine

namespace Bitmap

/-- A bitmap is the row-major view of some bytes as a grid. -/
structure RowMajor (b : Bitmap) (width height : Nat) (pixels : Bytes) : Prop where
  dimensions_eq : b.dimensions = (width, height)
  pixels_eq : b.pixels = pixels
  isSome_iff : ∀ x y, (b.pixel? x y).isSome ↔ x < width ∧ y < height
  /-- Looking up a pixel never traps, whatever is asked for. -/
  looked_up : ∀ x y, Machine.pixelBytes b x y = .ok ((b.pixel? x y).map Color.toBytes)
  /-- The pixels, row by row and within a row from left to right, are the bytes. -/
  enumerated : ((List.range height).flatMap fun y =>
    (List.range width).flatMap fun x => ((b.pixel? x y).map Color.toBytes).getD []) = pixels

lemma exists_ofPixels_iff {width height : Nat} {pixels : Bytes} :
    (∃ b, ofPixels width height pixels = .ok b) ↔
      width ≠ 0 ∧ height ≠ 0 ∧ pixels.length = width * height * 4 := by
  constructor
  · rintro ⟨b, hb⟩
    obtain ⟨rfl, rfl, rfl⟩ := ofPixels_eq_ok_iff.1 hb
    exact ⟨b.width_pos.ne', b.height_pos.ne', b.length_pixels⟩
  · rintro ⟨hwidth, hheight, hlength⟩
    exact ⟨⟨width, height, pixels, Nat.pos_of_ne_zero hwidth, Nat.pos_of_ne_zero hheight, hlength⟩,
      ofPixels_eq_ok_iff.2 ⟨rfl, rfl, rfl⟩⟩

/-- The bytes of the places that have a color are those of the colors. -/
lemma flatMap_getD_toBytes {α : Type} (l : List α) (f : α → Option Color) :
    (l.flatMap fun a => ((f a).map Color.toBytes).getD []) =
      (l.filterMap f).flatMap Color.toBytes := by
  induction l with
  | nil => rfl
  | cons a l ih =>
    rw [List.flatMap_cons, ih]
    cases hf : f a with
    | none => rw [List.filterMap_cons_none hf]; rfl
    | some c => rw [List.filterMap_cons_some hf]; rfl

lemma rowMajor (b : Bitmap) (h : b.pixels.length < 2 ^ 64) :
    b.RowMajor b.width b.height b.pixels where
  dimensions_eq := rfl
  pixels_eq := rfl
  isSome_iff _ _ := isSome_pixel?_iff
  looked_up := Machine.pixelBytes_eq h
  enumerated := by
    simp only [flatMap_getD_toBytes]
    rw [← List.flatMap_assoc]
    exact b.flatMap_shown

/-- **Pixels by their places.**  If the number of bytes that dimensions ask for fits into a word of
64 bits, the machine makes a bitmap of some bytes as it is made on numbers: if and only if neither
dimension is zero and the bytes are as many as that.  Each bitmap that is made is the row-major view
of its bytes, and is told apart from the others of its dimensions by the colors in its places. -/
theorem ofPixels_rowMajor (width height : Nat) (pixels : Bytes)
    (h : width * height * 4 < 2 ^ 64) :
    Machine.fromPixels width height pixels = Machine.refuse (ofPixels width height pixels) ∧
      ((∃ b, ofPixels width height pixels = .ok b) ↔
        width ≠ 0 ∧ height ≠ 0 ∧ pixels.length = width * height * 4) ∧
      ∀ b, ofPixels width height pixels = .ok b → b.RowMajor width height pixels ∧
        ∀ b' : Bitmap, b'.dimensions = b.dimensions →
          (b = b' ↔ ∀ x y, b.pixel? x y = b'.pixel? x y) := by
  refine ⟨Machine.fromPixels_eq h pixels, exists_ofPixels_iff, fun b hb => ?_⟩
  obtain ⟨rfl, rfl, rfl⟩ := ofPixels_eq_ok_iff.1 hb
  refine ⟨b.rowMajor (b.length_pixels ▸ h), fun b' hb' => ?_⟩
  obtain ⟨hwidth, hheight⟩ := Prod.ext_iff.1 hb'
  exact eq_iff_pixel? hwidth.symm hheight.symm

/-- Three columns and two rows: the last pixel is in column 2 and row 1, and nothing is beyond. -/
theorem ofPixels_rowMajor_sample :
    ∃ b, ofPixels 3 2 ((List.range 24).map UInt8.ofNat) = .ok b ∧
      Machine.pixelBytes b 2 1 = .ok (some [20, 21, 22, 23]) ∧
      Machine.pixelBytes b 2 2 = .ok none ∧
      ∀ b' : Bitmap, b'.dimensions = (3, 2) → (∀ x y, b.pixel? x y = b'.pixel? x y) → b = b' := by
  obtain ⟨-, hmade, hview⟩ :=
    ofPixels_rowMajor 3 2 ((List.range 24).map UInt8.ofNat) (by decide)
  obtain ⟨b, hb⟩ := hmade.2 (by decide)
  obtain ⟨hrowMajor, htold⟩ := hview b hb
  obtain ⟨hwidth, hheight, hpixels⟩ := ofPixels_eq_ok_iff.1 hb
  refine ⟨b, hb, ?_, ?_, fun b' hb' hsame => ?_⟩
  · rw [hrowMajor.looked_up, pixel?, hwidth, hheight, hpixels]
    exact congrArg Except.ok (by decide)
  · rw [hrowMajor.looked_up, pixel?, hwidth, hheight]
    rfl
  · exact (htold b' (hb'.trans hrowMajor.dimensions_eq.symm)).2 hsame

end Bitmap

end Raster
