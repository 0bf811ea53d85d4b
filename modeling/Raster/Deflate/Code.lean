import Raster.Deflate.Bits

/-!
# Codes of variable length

In compressed data a symbol is written as a word of bits, and no word starts another one, so the
words are the leaves of a binary tree.  Only the lengths of the words are known: shorter words come
first, words of one length are in the order of their symbols, and each word is the first one that
is still free.  `Code.ofLengths?` fills the tree from the left in that order.
-/

namespace Raster.Deflate

/-- A set of words of bits, each with a symbol, none of which starts another one. -/
inductive Tree where
  /-- There is no word here. -/
  | free
  /-- A word ends here. -/
  | leaf (symbol : Nat)
  /-- Words go on with a bit. -/
  | branch (zero one : Tree)

namespace Tree

/-- Gives a symbol the first free word of a length, if there is one. -/
def insert (symbol : Nat) : Nat → Tree → Option Tree
  | 0, free => some (leaf symbol)
  | n + 1, free => (insert symbol n free).map (branch · free)
  | n + 1, branch zero one =>
    match insert symbol n zero with
    | some zero => some (branch zero one)
    | none => (insert symbol n one).map (branch zero ·)
  | _, _ => none

/-- The symbol whose word a stream starts with. -/
def read : Tree → (bits : Bits) → Option (Taken Nat 0 bits)
  | leaf symbol, bits => some ⟨symbol, bits, Nat.le_refl _⟩
  | branch zero one, b :: rest =>
    (if b then one.read rest else zero.read rest).map fun t =>
      { value := t.value, rest := t.rest
        length_rest := by
          have := t.length_rest
          simp only [List.length_cons]
          omega }
  | _, _ => none

end Tree

/-- A code in which every word has at least one bit. -/
structure Code where
  zero : Tree
  one : Tree

namespace Code

/-- The symbol whose word a stream starts with. -/
def read (c : Code) : (bits : Bits) → Option (Taken Nat 1 bits)
  | [] => none
  | b :: rest =>
    ((if b then c.one else c.zero).read rest).map fun t =>
      { value := t.value, rest := t.rest
        length_rest := by
          have := t.length_rest
          simp only [List.length_cons]
          omega }

/-- The length of the longest word. -/
def longest : Nat := 15

/-- The symbols with words of a length, in increasing order. -/
def symbolsOfLength (lengths : List Nat) (n : Nat) : List Nat :=
  (List.range lengths.length).filter fun s => lengths[s]? = some n

/-- The code in which the word of each symbol has the given length; symbols of length 0 have no
word.  There is none if the words do not fit into a tree. -/
def ofLengths? (lengths : List Nat) : Option Code := do
  let words := (List.range longest).flatMap fun n =>
    (symbolsOfLength lengths (n + 1)).map fun s => (n + 1, s)
  match ← words.foldlM (fun tree w => tree.insert w.2 w.1) Tree.free with
  | .branch zero one => return ⟨zero, one⟩
  | _ => return ⟨.free, .free⟩

end Code

end Raster.Deflate
