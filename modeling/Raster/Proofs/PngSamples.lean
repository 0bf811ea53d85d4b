import Raster.Png.Picture
import Raster.Proofs.Blocks
import Raster.Proofs.Verdict
import Mathlib

/-!
# The samples of a PNG picture

A reader of PNG files promises as many samples as the header of a picture says, `Reader.IsWhole`.
The reader of this library keeps the promise (`reader_isWhole`): a row of a pass has a byte for each
of its differences, so a pixel that is found in a row has all of its samples, and a picture has
samples only if all its pixels are found.
-/

namespace Raster.Png

/-- A reader finds pictures with at least one pixel, and if their samples have eight bits it gives
all of them. -/
def Reader.IsWhole {σ : Type} (r : Reader σ) : Prop :=
  ∀ data header rest, r.start data = .ok (header, rest) →
    0 < header.width ∧ 0 < header.height ∧
      (header.depth = .eight → ∀ samples, r.samples rest = .ok samples →
        samples.length = header.width * header.height * header.colorType.samples)

/-! ## Rows -/

namespace Filter

lemma size_restore (f : Filter) (step : Nat) (above : Array UInt8) (differences : Bytes) :
    (f.restore step above differences).size = differences.length := by
  have hsize : ∀ row : Array UInt8, (differences.foldl (fun row d =>
      row.push (d + f.predict (before row row.size step) (before above row.size 0)
        (before above row.size step))) row).size = row.size + differences.length := by
    induction differences with
    | nil => exact fun row => rfl
    | cons d differences ih =>
      intro row
      rw [List.foldl_cons, ih, Array.size_push, List.length_cons]
      omega
  exact (hsize #[]).trans (Nat.zero_add _)

/-- A restored row has a byte for each byte of the stored one but the first. -/
lemma size_of_mem_restoreRows? {step n : Nat} {above : Array UInt8} {stored : List Bytes}
    {rows : List (Array UInt8)} (h : restoreRows? step above stored = some rows)
    (hstored : ∀ bytes ∈ stored, bytes.length = n + 1) : ∀ row ∈ rows, row.size = n := by
  induction stored generalizing above rows with
  | nil =>
    obtain rfl := Option.some.inj h
    exact fun row hrow => nomatch hrow
  | cons bytes stored ih =>
    rw [List.forall_mem_cons] at hstored
    cases bytes with
    | nil => cases h
    | cons code differences =>
      obtain ⟨f, -, h⟩ := Option.bind_eq_some_iff.1 h
      obtain ⟨others, hothers, h⟩ := Option.bind_eq_some_iff.1 h
      obtain rfl := Option.some.inj h
      refine List.forall_mem_cons.2 ⟨?_, ih hothers hstored.2⟩
      rw [size_restore]
      exact Nat.succ.inj hstored.1

end Filter

/-! ## Passes -/

namespace Pass

/-- The column of a pixel is one of those that the pass takes. -/
lemma column_lt {p : Pass} {x width : Nat} (hdx : 0 < p.dx) (hp : p.x ≤ x) (hx : x < width) :
    p.column x < p.width width := by
  have hle : (x - p.x) / p.dx ≤ (width - p.x - 1) / p.dx := Nat.div_le_div_right (by omega)
  have hsucc : (width - p.x + p.dx - 1) / p.dx = (width - p.x - 1) / p.dx + 1 := by
    rw [← Nat.add_div_right _ hdx]
    congr 1
    omega
  rw [column, Pass.width, hsucc]
  omega

end Pass

namespace Header

variable {h : Header}

/-- Every row has the bytes of the pixels that its pass takes. -/
lemma size_of_passesRows? {passes : List Pass} {data : Bytes}
    {found : List (Pass × Array (Array UInt8))} (hfound : h.passesRows? passes data = some found) :
    ∀ p ∈ found, p.1 ∈ passes ∧ ∀ row ∈ p.2, row.size = h.rowSize (p.1.width h.width) := by
  induction passes generalizing data found with
  | nil =>
    obtain rfl := Option.some.inj hfound
    exact fun p hp => nomatch hp
  | cons pass passes ih =>
    obtain ⟨rows, hrows, hfound⟩ := Option.bind_eq_some_iff.1 hfound
    obtain ⟨others, hothers, hfound⟩ := Option.bind_eq_some_iff.1 hfound
    obtain rfl := Option.some.inj hfound
    refine List.forall_mem_cons.2 ⟨⟨List.mem_cons_self, ?_⟩, fun p hp => ?_⟩
    · obtain ⟨u, hu, hrows⟩ := Option.bind_eq_some_iff.1 hrows
      have hdata : h.passSize pass ≤ data.length := by
        by_contra hnot
        rw [guard, if_neg hnot] at hu
        cases hu
      have hsize := Filter.size_of_mem_restoreRows? hrows fun bytes hbytes =>
        length_of_mem_pieces hdata hbytes
      intro row hrow
      exact hsize row (by simpa using hrow)
    · obtain ⟨hpass, hsize⟩ := ih hothers p hp
      exact ⟨List.mem_cons_of_mem _ hpass, hsize⟩

/-- A pixel that is found has all of its samples. -/
lemma length_of_pixel? {found : List (Pass × Array (Array UInt8))} (hdepth : h.depth = .eight)
    (hfound : ∀ p ∈ found, 0 < p.1.dx ∧ ∀ row ∈ p.2, row.size = h.rowSize (p.1.width h.width))
    {x y : Nat} (hx : x < h.width) {samples : Bytes} (hpixel : h.pixel? found x y = some samples) :
    samples.length = h.colorType.samples := by
  obtain ⟨⟨pass, rows⟩, hpass, hpixel⟩ := Option.bind_eq_some_iff.1 hpixel
  obtain ⟨row, hrow, hpixel⟩ := Option.bind_eq_some_iff.1 hpixel
  obtain rfl := Option.some.inj hpixel
  obtain ⟨hdx, hsize⟩ := hfound _ (List.mem_of_find?_eq_some hpass)
  have hcovers : pass.Covers x y := by simpa using List.find?_some hpass
  have hcolumn := Pass.column_lt hdx hcovers.1 hx
  have hrowSize : row.size = pass.width h.width * h.colorType.samples := by
    have hbits : pass.width h.width * (8 * h.colorType.samples) =
        8 * (pass.width h.width * h.colorType.samples) := by ring
    rw [hsize row (Array.mem_of_getElem? hrow), rowSize, bitsPerPixel, hdepth]
    show (pass.width h.width * (8 * h.colorType.samples) + 7) / 8 = _
    omega
  have hend : pass.column x * h.colorType.samples + h.colorType.samples ≤ row.size := by
    rw [hrowSize, ← Nat.succ_mul]
    exact Nat.mul_le_mul_right _ hcolumn
  rw [Array.length_toList, Array.size_extract, Nat.min_eq_left hend, Nat.add_sub_cancel_left]

lemma length_flatten_of_mapM {α : Type} {f : α → Option Bytes} {k : Nat} {l : List α}
    {r : List Bytes} (hr : l.mapM f = some r)
    (hf : ∀ a ∈ l, ∀ bytes, f a = some bytes → bytes.length = k) :
    r.flatten.length = l.length * k := by
  induction l generalizing r with
  | nil =>
    obtain rfl := Option.some.inj hr
    exact (Nat.zero_mul k).symm
  | cons a l ih =>
    rw [List.mapM_cons] at hr
    obtain ⟨bytes, hbytes, hr⟩ := Option.bind_eq_some_iff.1 hr
    obtain ⟨others, hothers, hr⟩ := Option.bind_eq_some_iff.1 hr
    obtain rfl := Option.some.inj hr
    rw [List.forall_mem_cons] at hf
    rw [List.flatten_cons, List.length_append, hf.1 bytes hbytes, ih hothers hf.2,
      List.length_cons, Nat.succ_mul, Nat.add_comm]

/-- A picture has samples for all its pixels or none. -/
lemma length_of_samples? {passes : List Pass} {data samples : Bytes} (hdepth : h.depth = .eight)
    (hpasses : ∀ p ∈ passes, 0 < p.dx) (hsamples : h.samples? passes data = some samples) :
    samples.length = h.width * h.height * h.colorType.samples := by
  obtain ⟨found, hfound, hsamples⟩ := Option.bind_eq_some_iff.1 hsamples
  obtain ⟨pixels, hpixels, hsamples⟩ := Option.bind_eq_some_iff.1 hsamples
  obtain rfl := Option.some.inj hsamples
  have hrows := size_of_passesRows? hfound
  rw [length_flatten_of_mapM hpixels]
  · rw [length_blocks (k := h.width) (by simp), List.length_range, Nat.mul_comm h.height]
  · rintro ⟨x, y⟩ hplace bytes hbytes
    have hx : x < h.width := by
      simp only [List.mem_flatMap, List.mem_map, List.mem_range, Prod.mk.injEq] at hplace
      obtain ⟨_, _, _, hlt, rfl, _⟩ := hplace
      exact hlt
    exact length_of_pixel? hdepth (fun p hp => ⟨hpasses _ (hrows p hp).1, (hrows p hp).2⟩) hx hbytes

/-- A header that is read is that of a picture with pixels. -/
lemma pos_of_ofBytes? {data : Bytes} (hread : ofBytes? data = some h) :
    0 < h.width ∧ 0 < h.height := by
  rw [ofBytes?] at hread
  split at hread
  · obtain ⟨depth, -, hread⟩ := Option.bind_eq_some_iff.1 hread
    obtain ⟨colorType, -, hread⟩ := Option.bind_eq_some_iff.1 hread
    obtain ⟨u, hu, hread⟩ := Option.bind_eq_some_iff.1 hread
    obtain rfl := Option.some.inj hread
    by_contra hnot
    rw [guard, if_neg fun hall => hnot ⟨hall.1, hall.2.1⟩] at hu
    cases hu
  · cases hread

/-- The height of a picture has 32 bits. -/
lemma height_lt_of_ofBytes? {data : Bytes} (hread : ofBytes? data = some h) :
    h.height < 2 ^ 32 := by
  rw [ofBytes?] at hread
  split at hread
  · obtain ⟨depth, -, hread⟩ := Option.bind_eq_some_iff.1 hread
    obtain ⟨colorType, -, hread⟩ := Option.bind_eq_some_iff.1 hread
    obtain ⟨u, -, hread⟩ := Option.bind_eq_some_iff.1 hread
    obtain rfl := Option.some.inj hread
    have hlength : ((data.drop 4).take 4).reverse.length ≤ 4 := by
      rw [List.length_reverse]
      exact List.length_take_le _ _
    calc bigEndian ((data.drop 4).take 4)
        < 1 <<< (8 * ((data.drop 4).take 4).reverse.length) := LittleEndian.decode_lt _
      _ = 2 ^ (8 * ((data.drop 4).take 4).reverse.length) := Nat.one_shiftLeft _
      _ ≤ 2 ^ 32 := Nat.pow_le_pow_right (by decide) (by omega)
  · cases hread

end Header

/-! ## The reader -/

namespace Opened

lemma dx_pos_of_mem_passes {o : Opened} : ∀ p ∈ o.passes, 0 < p.dx := by
  rw [passes]
  split <;> decide

lemma exists_of_headerOf {chunks : List Chunk} {header : Header}
    (h : headerOf chunks = .ok header) : ∃ data, Header.ofBytes? data = some header := by
  cases chunks with
  | nil => cases h
  | cons first chunks =>
    obtain ⟨_, -, h⟩ := bind_eq_ok_iff.1 h
    obtain ⟨_, -, h⟩ := bind_eq_ok_iff.1 h
    split at h
    · next hread =>
      obtain rfl := Except.ok.inj h
      exact ⟨_, hread⟩
    · cases h

/-- A picture that is opened has a header that was read, and rows that are not too long. -/
lemma exists_of_ofBytes {data : Bytes} {o : Opened} (h : ofBytes data = .ok o) :
    (∃ data, Header.ofBytes? data = some o.header) ∧
      o.header.rowSize o.header.width ≤ Header.maxRowSize := by
  obtain ⟨_, -, h⟩ := bind_eq_ok_iff.1 h
  obtain ⟨header, hheader, h⟩ := bind_eq_ok_iff.1 h
  obtain ⟨_, -, h⟩ := bind_eq_ok_iff.1 h
  obtain ⟨_, -, h⟩ := bind_eq_ok_iff.1 h
  obtain ⟨_, hrow, h⟩ := bind_eq_ok_iff.1 h
  obtain rfl := Except.ok.inj h
  exact ⟨exists_of_headerOf hheader, require_eq_ok_iff.1 hrow⟩

/-- The samples of a picture that is opened fit into a buffer. -/
lemma size_le_of_ofBytes {data : Bytes} {o : Opened} (h : ofBytes data = .ok o) :
    o.header.size ≤ maxCapacity := by
  obtain ⟨⟨_, hread⟩, hrow⟩ := exists_of_ofBytes h
  have hheight := Header.height_lt_of_ofBytes? hread
  calc o.header.size ≤ Header.maxRowSize * 2 ^ 32 := Nat.mul_le_mul hrow hheight.le
    _ ≤ maxCapacity := by decide

lemma length_of_samples {o : Opened} {samples : Bytes} (hdepth : o.header.depth = .eight)
    (h : o.samples = .ok samples) :
    samples.length = o.header.width * o.header.height * o.header.colorType.samples := by
  obtain ⟨compressed, -, h⟩ := bind_eq_ok_iff.1 h
  split at h
  · next found hfound =>
    obtain rfl := Except.ok.inj h
    obtain ⟨data, -, hsamples⟩ := Option.bind_eq_some_iff.1 hfound
    exact Header.length_of_samples? hdepth dx_pos_of_mem_passes hsamples
  · cases h

end Opened

/-- The reader of this library never needs a larger buffer than can be asked for. -/
lemma bufferSize_reader_le {data : Bytes} {header : Header} {rest : Opened}
    (h : reader.start data = .ok (header, rest)) : reader.bufferSize rest ≤ maxCapacity := by
  obtain ⟨opened, hopened, h⟩ := bind_eq_ok_iff.1 h
  obtain ⟨-, rfl⟩ := Prod.ext_iff.1 (Except.ok.inj h)
  exact Opened.size_le_of_ofBytes hopened

/-- Nor are the pixels of a picture in RGB too many for a buffer. -/
lemma samples_reader_le {data samples : Bytes} {header : Header} {rest : Opened}
    (h : reader.start data = .ok (header, rest)) (hdepth : header.depth = .eight)
    (hcolor : header.colorType = .rgb) (hsamples : reader.samples rest = .ok samples) :
    samples.length / 3 * 4 ≤ maxCapacity := by
  obtain ⟨opened, hopened, h⟩ := bind_eq_ok_iff.1 h
  obtain ⟨rfl, rfl⟩ := Prod.ext_iff.1 (Except.ok.inj h)
  obtain ⟨⟨_, hread⟩, hrow⟩ := Opened.exists_of_ofBytes hopened
  have hheight := Header.height_lt_of_ofBytes? hread
  have hlength := Opened.length_of_samples hdepth hsamples
  dsimp only at hdepth hcolor hlength hheight
  rw [hcolor] at hlength
  have hwidth : opened.header.width * 3 ≤ Header.maxRowSize := by
    refine le_trans ?_ hrow
    rw [Header.rowSize, Header.bitsPerPixel, hdepth, hcolor]
    show opened.header.width * 3 ≤ (opened.header.width * 24 + 7) / 8
    omega
  have harea : opened.header.width * 3 * opened.header.height ≤ Header.maxRowSize * 2 ^ 32 :=
    Nat.mul_le_mul hwidth hheight.le
  have hbytes : samples.length ≤ Header.maxRowSize * 2 ^ 32 := by
    rw [hlength, Nat.mul_right_comm]
    exact harea
  have hmax : Header.maxRowSize * 2 ^ 32 = 2 ^ 58 := by decide
  rw [maxCapacity]
  omega

/-- The reader of this library gives all samples of the pictures it finds. -/
theorem reader_isWhole : reader.IsWhole := by
  intro data header rest h
  obtain ⟨opened, hopened, h⟩ := bind_eq_ok_iff.1 h
  obtain ⟨rfl, rfl⟩ := Prod.ext_iff.1 (Except.ok.inj h)
  obtain ⟨⟨_, hread⟩, -⟩ := Opened.exists_of_ofBytes hopened
  obtain ⟨hwidth, hheight⟩ := Header.pos_of_ofBytes? hread
  exact ⟨hwidth, hheight, fun hdepth samples hsamples => Opened.length_of_samples hdepth hsamples⟩

end Raster.Png
