/-!
# Cutting a list into pieces of one size

`pieces count size l` is the list of the first `count` pieces of `size` elements.  When `l` has
`count * size` elements the pieces are full and nothing is lost (`flatten_pieces`).
-/

namespace Raster

variable {α : Type}

/-- The first `count` consecutive pieces of `size` elements of a list. -/
def pieces : Nat → Nat → List α → List (List α)
  | 0, _, _ => []
  | count + 1, size, l => l.take size :: pieces count size (l.drop size)

@[simp] theorem pieces_zero (size : Nat) (l : List α) : pieces 0 size l = [] := rfl

theorem pieces_succ (count size : Nat) (l : List α) :
    pieces (count + 1) size l = l.take size :: pieces count size (l.drop size) := rfl

@[simp] theorem length_pieces (count size : Nat) (l : List α) :
    (pieces count size l).length = count := by
  induction count generalizing l with
  | zero => rfl
  | succ count ih => simp [pieces_succ, ih]

/-- The pieces, put together, are the elements they were cut from. -/
theorem flatten_pieces (count size : Nat) (l : List α) :
    (pieces count size l).flatten = l.take (count * size) := by
  induction count generalizing l with
  | zero => simp
  | succ count ih =>
    rw [pieces_succ, List.flatten_cons, ih, Nat.succ_mul, Nat.add_comm, List.take_add]

/-- The piece of number `i` starts at element `i * size`. -/
theorem getElem?_pieces {count size : Nat} {l : List α} {i : Nat} (hi : i < count) :
    (pieces count size l)[i]? = some ((l.drop (i * size)).take size) := by
  induction count generalizing l i with
  | zero => omega
  | succ count ih =>
    cases i with
    | zero => simp [pieces_succ]
    | succ i =>
      rw [pieces_succ, List.getElem?_cons_succ, ih (by omega), List.drop_drop, Nat.succ_mul,
        Nat.add_comm]

end Raster
