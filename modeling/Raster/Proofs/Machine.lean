import Raster.Proofs.Verdict
import Raster.Bytes.LittleEndian
import Raster.Bytes.Pieces
import Mathlib

/-!
# Operations that can trap

On a machine an operation needs more of its operands than on numbers: a sum must fit into its word,
a difference must not be negative, a shift must be narrower than the word, an index must be within
the bytes, and no more bytes can be asked for than `maxCapacity`.  Here every such need is a check,
and an operation that is not given what it needs stops with a `Trap`.  That is another way to stop
than refusing the input, which is a result like any other; `refuse` takes a computation that does
not trap to the computations that might.  Memory that runs out below `maxCapacity` is left out.

A computation with traps and one without are compared step by step (`refuse_bind_congr`) and along
lists (`mapM_eq_refuse`, `mapM_range_eq_refuse`).
-/

namespace Raster.Machine

variable {α β γ : Type}

/-- What an operation of the machine was not given. -/
inductive Trap where
  /-- The result does not fit into its word. -/
  | overflow
  /-- A difference is negative. -/
  | underflow
  /-- A shift is as wide as its word. -/
  | shift
  /-- A divisor is zero. -/
  | division
  /-- More bytes are asked for than can be kept. -/
  | capacity
  | index
  | slice
  | assertion
  | unreachable
deriving DecidableEq

/-- Why a computation ends without a result. -/
inductive Stop where
  | trap (t : Trap)
  | refused (e : Error)

/-- A value that is given only under a condition. -/
def guarded (p : Prop) [Decidable p] (t : Trap) (a : α) : Except Stop α :=
  require p (.trap t) >>= fun _ => .ok a

lemma guarded_of {p : Prop} [Decidable p] {t : Trap} {a : α} (h : p) : guarded p t a = .ok a :=
  require_bind h

lemma guarded_of_not {p : Prop} [Decidable p] {t : Trap} {a : α} (h : ¬ p) :
    guarded p t a = .error (.trap t) :=
  require_bind_of_not h

lemma guarded_eq_ok_iff {p : Prop} [Decidable p] {t : Trap} {a b : α} :
    guarded p t a = .ok b ↔ p ∧ a = b := by
  rw [guarded, bind_eq_ok_iff]
  simp

/-! ## Operations -/

def add (bits a b : Nat) : Except Stop Nat := guarded (a + b < 2 ^ bits) .overflow (a + b)

def mul (bits a b : Nat) : Except Stop Nat := guarded (a * b < 2 ^ bits) .overflow (a * b)

def sub (a b : Nat) : Except Stop Nat := guarded (b ≤ a) .underflow (a - b)

def div (a b : Nat) : Except Stop Nat := guarded (b ≠ 0) .division (a / b)

def rem (a b : Nat) : Except Stop Nat := guarded (b ≠ 0) .division (a % b)

/-- The bits that are shifted out of the word are lost. -/
def shiftLeft (bits a n : Nat) : Except Stop Nat := guarded (n < bits) .shift ((a <<< n) % 2 ^ bits)

def shiftRight (bits a n : Nat) : Except Stop Nat := guarded (n < bits) .shift (a >>> n)

/-- Room for `n` bytes, none of them written yet. -/
def allocate (n : Nat) : Except Stop Unit := guarded (n ≤ maxCapacity) .capacity ()

/-- The bytes from position `n` on. -/
def dropFirst (bytes : Bytes) (n : Nat) : Except Stop Bytes :=
  guarded (n ≤ bytes.length) .slice (bytes.drop n)

/-- The first `n` bytes. -/
def takeFirst (bytes : Bytes) (n : Nat) : Except Stop Bytes :=
  guarded (n ≤ bytes.length) .slice (bytes.take n)

def byteAt (bytes : Bytes) (n : Nat) : Except Stop UInt8 :=
  guarded (n < bytes.length) .index (bytes[n]?.getD 0)

/-- The whole pieces of `size` bytes; what is left over is not among them. -/
def wholePieces (size : Nat) (bytes : Bytes) : Except Stop (List Bytes) :=
  guarded (size ≠ 0) .assertion (pieces (bytes.length / size) size bytes)

lemma byteAt_eq {bytes : Bytes} {n : Nat} {b : UInt8} (h : bytes[n]? = some b) :
    byteAt bytes n = .ok b := by
  obtain ⟨hn, -⟩ := List.getElem?_eq_some_iff.1 h
  rw [byteAt, guarded_of hn, h]
  rfl

/-! ## Computations that do not trap -/

/-- A computation that ends with a result or refuses its input. -/
def refuse (x : Except Error α) : Except Stop α := x.mapError Stop.refused

@[simp] lemma refuse_ok (a : α) : refuse (.ok a) = .ok a := rfl

@[simp] lemma refuse_error (e : Error) : refuse (.error e : Except Error α) = .error (.refused e) :=
  rfl

lemma refuse_ne_trap (x : Except Error α) (t : Trap) : refuse x ≠ .error (.trap t) := by
  cases x with
  | error e => simp
  | ok a => simp

/-- Two computations agree if their first steps do, and what follows does for each result. -/
lemma refuse_bind_congr {x : Except Stop α} {y : Except Error α} {f : α → Except Stop β}
    {g : α → Except Error β} (hxy : x = refuse y) (hfg : ∀ a, y = .ok a → f a = refuse (g a)) :
    (x >>= f) = refuse (y >>= g) := by
  subst hxy
  cases y with
  | error e => rfl
  | ok a => exact hfg a rfl

lemma mapM_eq_refuse {f : α → Except Stop γ} {g : β → Except Error γ} {l : List α} {r : List β}
    (h : List.Forall₂ (fun a b => f a = refuse (g b)) l r) : l.mapM f = refuse (r.mapM g) := by
  induction h with
  | nil => rfl
  | cons hab _ ih =>
    rw [List.mapM_cons, List.mapM_cons]
    refine refuse_bind_congr hab fun c _ => ?_
    exact refuse_bind_congr ih fun cs _ => rfl

/-- Going through the positions of a list is going through the list. -/
lemma mapM_range_eq_refuse {f : Nat → Except Stop γ} {g : β → Except Error γ} {n : Nat} {l : List β}
    (hlength : l.length = n) (h : ∀ k b, l[k]? = some b → f k = refuse (g b)) :
    (List.range n).mapM f = refuse (l.mapM g) := by
  subst hlength
  refine mapM_eq_refuse (List.forall₂_iff_get.2 ⟨List.length_range, fun k _ hk => ?_⟩)
  rw [List.get_eq_getElem, List.getElem_range]
  exact h k _ (List.getElem?_eq_getElem hk)

end Raster.Machine
