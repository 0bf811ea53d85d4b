import Raster.Bytes.Pieces
import Mathlib

/-!
# Lists made of blocks of one size

Rows of pixels, pixels of channels and bytes of bits are all stored in the same way: one block
after another, all of one size.  If every `f a` has `k` elements, then block `q` of `l.flatMap f` is
`f` of element `q` of `l` (`take_drop_blocks`), and element `r` of it is element `q * k + r` of the
whole (`getElem?_blocks`).
-/

namespace Raster

variable {α β : Type} {l : List α} {f : α → List β} {k : Nat}

lemma length_blocks (hf : ∀ a ∈ l, (f a).length = k) : (l.flatMap f).length = l.length * k := by
  induction l with
  | nil => simp
  | cons a l ih =>
    rw [List.flatMap_cons, List.length_append, hf a List.mem_cons_self,
      ih fun b hb => hf b (List.mem_cons_of_mem _ hb), List.length_cons, Nat.succ_mul, Nat.add_comm]

/-- Leaving out the first blocks. -/
lemma drop_blocks (hf : ∀ a ∈ l, (f a).length = k) (q : Nat) :
    (l.flatMap f).drop (q * k) = (l.drop q).flatMap f := by
  induction l generalizing q with
  | nil => simp
  | cons a l ih =>
    cases q with
    | zero => simp
    | succ q =>
      have ha := hf a List.mem_cons_self
      have hl := ih (fun b hb => hf b (List.mem_cons_of_mem _ hb)) q
      rw [List.flatMap_cons, Nat.succ_mul, Nat.add_comm, ← List.drop_drop, List.drop_left' ha, hl,
        List.drop_succ_cons]

/-- The block of number `q`, and what follows it. -/
lemma drop_blocks_eq (hf : ∀ a ∈ l, (f a).length = k) {q : Nat} {a : α} (ha : l[q]? = some a) :
    (l.flatMap f).drop (q * k) = f a ++ (l.drop (q + 1)).flatMap f := by
  obtain ⟨hq, rfl⟩ := List.getElem?_eq_some_iff.1 ha
  rw [drop_blocks hf, List.drop_eq_getElem_cons hq, List.flatMap_cons]

lemma getElem?_blocks (hf : ∀ a ∈ l, (f a).length = k) {q r : Nat} {a : α} (ha : l[q]? = some a)
    (hr : r < k) : (l.flatMap f)[q * k + r]? = (f a)[r]? := by
  have hmem := List.mem_of_getElem? ha
  rw [← List.getElem?_drop, drop_blocks_eq hf ha,
    List.getElem?_append_left (lt_of_lt_of_eq hr (hf a hmem).symm)]

/-- The block of number `q` takes the elements from `q * k` on. -/
lemma take_drop_blocks (hf : ∀ a ∈ l, (f a).length = k) {q : Nat} {a : α} (ha : l[q]? = some a) :
    ((l.flatMap f).drop (q * k)).take k = f a := by
  rw [drop_blocks_eq hf ha, List.take_left' (hf a (List.mem_of_getElem? ha))]

/-- Pieces of a list that is long enough are full. -/
lemma length_of_mem_pieces {count size : Nat} {l : List α} (h : count * size ≤ l.length)
    {piece : List α} (hpiece : piece ∈ pieces count size l) : piece.length = size := by
  induction count generalizing l with
  | zero => exact absurd hpiece (by simp)
  | succ count ih =>
    rw [Nat.succ_mul] at h
    rw [pieces_succ, List.mem_cons] at hpiece
    rcases hpiece with rfl | hpiece
    · rw [List.length_take]
      omega
    · refine ih ?_ hpiece
      rw [List.length_drop]
      omega

lemma take_pieces {count n : Nat} (h : n ≤ count) (size : Nat) (l : List α) :
    (pieces count size l).take n = pieces n size l := by
  induction n generalizing count l with
  | zero => rfl
  | succ n ih =>
    obtain ⟨m, rfl⟩ := Nat.exists_eq_add_of_le h
    rw [Nat.add_right_comm, pieces_succ, List.take_succ_cons, ih (Nat.le_add_right n m)]
    rfl

/-- Lists of one size that are put together are the pieces of the whole. -/
lemma pieces_flatten {size : Nat} {l : List (List α)} (h : ∀ piece ∈ l, piece.length = size) :
    pieces l.length size l.flatten = l := by
  induction l with
  | nil => rfl
  | cons piece l ih =>
    have hpiece := h piece List.mem_cons_self
    rw [List.length_cons, pieces_succ, List.flatten_cons, List.take_left' hpiece,
      List.drop_left' hpiece, ih fun b hb => h b (List.mem_cons_of_mem _ hb)]

/-- Position `y * n + x` of a grid of `m` rows of `n` places is one of its `m * n` places. -/
lemma mul_add_lt {m n x y : Nat} (hy : y < m) (hx : x < n) : y * n + x < m * n := by
  have hle : (y + 1) * n ≤ m * n := Nat.mul_le_mul_right n hy
  rw [Nat.succ_mul] at hle
  omega

/-- Places of a grid come one after another row by row, from left to right. -/
lemma mul_add_lt_mul_add_iff {n x y x' y' : Nat} (hx : x < n) (hx' : x' < n) :
    y' * n + x' < y * n + x ↔ y' < y ∨ y' = y ∧ x' < x := by
  rcases lt_trichotomy y' y with h | rfl | h
  · have hle : (y' + 1) * n ≤ y * n := Nat.mul_le_mul_right n h
    rw [Nat.succ_mul] at hle
    exact iff_of_true (by omega) (Or.inl h)
  · simp
  · have hle : (y + 1) * n ≤ y' * n := Nat.mul_le_mul_right n h
    rw [Nat.succ_mul] at hle
    exact iff_of_false (by omega) (by omega)

/-- The number of an element is settled by its place within its block, whichever block that is. -/
lemma eq_of_mul_add_eq {n q q' r r' : Nat} (hr : r < n) (hr' : r' < n)
    (h : q * n + r = q' * n + r') : r = r' := by
  calc r = (q * n + r) % n := by rw [Nat.mul_add_mod', Nat.mod_eq_of_lt hr]
    _ = (q' * n + r') % n := by rw [h]
    _ = r' := by rw [Nat.mul_add_mod', Nat.mod_eq_of_lt hr']

end Raster
