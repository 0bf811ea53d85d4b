import Raster.Deflate.Code

/-!
# Compressed data

`inflate` restores the bytes that a stream of compressed data stands for.  The stream is a sequence
of blocks.  A stored block holds bytes as they are.  Every other block is a sequence of items, each
a byte or a reference to bytes that were restored before, written in one code for bytes and
lengths and another for distances; the codes are fixed, or the block starts with the lengths of
their words.
-/

namespace Raster.Deflate

/-- One item of a compressed block. -/
inductive Item where
  /-- A byte. -/
  | byte (b : UInt8)
  /-- The bytes that start `distance` before the end of what has been restored. -/
  | copy (length distance : Nat)
  /-- The end of the block. -/
  | stop

/-- The least length of each length symbol, with the number of bits that are added to it. -/
def lengthRanges : List (Nat × Nat) :=
  [(3, 0), (4, 0), (5, 0), (6, 0), (7, 0), (8, 0), (9, 0), (10, 0), (11, 1), (13, 1), (15, 1),
   (17, 1), (19, 2), (23, 2), (27, 2), (31, 2), (35, 3), (43, 3), (51, 3), (59, 3), (67, 4),
   (83, 4), (99, 4), (115, 4), (131, 5), (163, 5), (195, 5), (227, 5), (258, 0)]

/-- The least distance of each distance symbol, with the number of bits that are added to it. -/
def distanceRanges : List (Nat × Nat) :=
  [(1, 0), (2, 0), (3, 0), (4, 0), (5, 1), (7, 1), (9, 2), (13, 2), (17, 3), (25, 3), (33, 4),
   (49, 4), (65, 5), (97, 5), (129, 6), (193, 6), (257, 7), (385, 7), (513, 8), (769, 8),
   (1025, 9), (1537, 9), (2049, 10), (3073, 10), (4097, 11), (6145, 11), (8193, 12), (12289, 12),
   (16385, 13), (24577, 13)]

/-- A number from a range: the least one and as many bits more as the range has. -/
def takeFromRange (range : Nat × Nat) (bits : Bits) : Option (Taken Nat 0 bits) :=
  (takeNat range.2 bits).map fun t => (t.map (range.1 + ·)).weaken (Nat.zero_le _)

/-- The code of the bytes and lengths of a block, and that of its distances. -/
structure Codes where
  main : Code
  distance : Code

namespace Codes

/-- The reference whose length symbol has been read. -/
def takeCopy (c : Codes) (symbol : Nat) (bits : Bits) : Option (Taken Item 1 bits) := do
  let length ← takeFromRange (← lengthRanges[symbol]?) bits
  let symbol ← c.distance.read length.rest
  let distance ← takeFromRange (← distanceRanges[symbol.value]?) symbol.rest
  let item := distance.map (Item.copy length.value ·)
  return (length.after (symbol.after item)).weaken (by omega)

/-- The next item of a block. -/
def takeItem (c : Codes) (bits : Bits) : Option (Taken Item 1 bits) := do
  let symbol ← c.main.read bits
  if symbol.value < 256 then return symbol.map fun s => .byte (.ofNat s)
  else if symbol.value = 256 then return symbol.map fun _ => .stop
  else
    let item ← c.takeCopy (symbol.value - 257) symbol.rest
    return (symbol.after item).weaken (by omega)

end Codes

/-- Appends bytes that are already there, one at a time, so that a reference can overlap what it
adds. -/
def copyBytes (distance : Nat) : Nat → Array UInt8 → Option (Array UInt8)
  | 0, out => some out
  | n + 1, out =>
    if distance ≤ out.size then
      match out[out.size - distance]? with
      | some b => copyBytes distance n (out.push b)
      | none => none
    else none

/-- Restores the items of a block up to its end, from somewhere within a stream. -/
def takeItems (c : Codes) {stream : Bits} (bits : Bits) (out : Array UInt8)
    (h : bits.length ≤ stream.length) : Option (Taken (Array UInt8) 1 stream) :=
  match c.takeItem bits with
  | none => none
  | some ⟨.stop, rest, _⟩ => some ⟨out, rest, by omega⟩
  | some ⟨.byte b, rest, _⟩ => takeItems c rest (out.push b) (by omega)
  | some ⟨.copy length distance, rest, _⟩ =>
    match copyBytes distance length out with
    | none => none
    | some out => takeItems c rest out (by omega)
termination_by bits.length

/-! ## Codes of a block -/

/-- The lengths of the words of the fixed main code. -/
def fixedLengths : List Nat :=
  List.replicate 144 8 ++ List.replicate 112 9 ++ List.replicate 24 7 ++ List.replicate 8 8

/-- The codes of a block that does not bring its own. -/
def fixedCodes? : Option Codes := do
  return ⟨← Code.ofLengths? fixedLengths, ← Code.ofLengths? (List.replicate 30 5)⟩

/-- The order in which the lengths of the code for lengths are given. -/
def lengthOrder : List Nat := [16, 17, 18, 0, 8, 7, 9, 6, 10, 5, 11, 4, 12, 3, 13, 2, 14, 1, 15]

/-- A number of lengths of three bits each. -/
def takeShortLengths : (n : Nat) → (bits : Bits) → Option (Taken (List Nat) 0 bits)
  | 0, bits => some (.nothing [] bits)
  | n + 1, bits => do
    let length ← takeNat 3 bits
    let others ← takeShortLengths n length.rest
    return (length.after (others.map (length.value :: ·))).weaken (by omega)

/-- The lengths that a symbol of the code for lengths stands for: the length itself, or a run of
the length before it, or a run of zeros. -/
def takeRun (symbol : Nat) (done : List Nat) (bits : Bits) : Option (Taken (List Nat) 0 bits) :=
  let run (least width : Nat) (length : Nat) : Option (Taken (List Nat) 0 bits) :=
    (takeFromRange (least, width) bits).map (·.map (List.replicate · length))
  match symbol with
  | 16 => done.getLast?.bind (run 3 2)
  | 17 => run 3 3 0
  | 18 => run 11 7 0
  | _ => some (.nothing [symbol] bits)

/-- Lengths of words, written in a code of their own, until there are `count` of them. -/
def takeLengths (c : Code) (count : Nat) (done : List Nat) (bits : Bits) :
    Option (Taken (List Nat) 0 bits) :=
  if done.length = count then some (.nothing done bits)
  else if done.length < count then
    match c.read bits with
    | none => none
    | some ⟨symbol, rest, _⟩ =>
      match takeRun symbol done rest with
      | none => none
      | some ⟨run, rest', _⟩ =>
        (takeLengths c count (done ++ run) rest').map fun t => ⟨t.value, t.rest, by
          have := t.length_rest
          omega⟩
  else none
termination_by bits.length

/-- The codes that a block starts with. -/
def takeCodes (bits : Bits) : Option (Taken Codes 0 bits) := do
  let mains ← takeNat 5 bits
  let distances ← takeNat 5 mains.rest
  let count ← takeNat 4 distances.rest
  let short ← takeShortLengths (count.value + 4) count.rest
  let lengthOf (symbol : Nat) : Nat := (short.value[lengthOrder.idxOf symbol]?).getD 0
  let code ← Code.ofLengths? ((List.range 19).map lengthOf)
  let lengths ← takeLengths code (mains.value + 257 + (distances.value + 1)) [] short.rest
  let main ← Code.ofLengths? (lengths.value.take (mains.value + 257))
  let distance ← Code.ofLengths? (lengths.value.drop (mains.value + 257))
  let codes := lengths.map fun _ => Codes.mk main distance
  return (mains.after (distances.after (count.after (short.after codes)))).weaken (by omega)

/-! ## Blocks -/

/-- The bytes of a stored block: their number, the complement of their number, and they. -/
def takeStored (bits : Bits) (out : Array UInt8) : Option (Taken (Array UInt8) 0 bits) := do
  let aligned := align bits
  let count ← takeNat 16 aligned.rest
  let complement ← takeNat 16 count.rest
  if count.value + complement.value ≠ 0xffff then none
  let bytes ← takeBytes count.value complement.rest
  let all := bytes.map (out ++ ·.toArray)
  return (aligned.after (count.after (complement.after all))).weaken (by omega)

/-- Restores the content of a block of some kind. -/
def takeContent (kind : Nat) (bits : Bits) (out : Array UInt8) :
    Option (Taken (Array UInt8) 0 bits) := do
  match kind with
  | 0 => takeStored bits out
  | 1 =>
    let items ← takeItems (← fixedCodes?) bits out (Nat.le_refl _)
    return items.weaken (Nat.zero_le _)
  | 2 =>
    let codes ← takeCodes bits
    let items ← takeItems codes.value codes.rest out (Nat.le_refl _)
    return (codes.after items).weaken (Nat.zero_le _)
  | _ => none

/-- Restores one block; the value also tells whether it is the last one. -/
def takeBlock (bits : Bits) (out : Array UInt8) :
    Option (Taken (Bool × Array UInt8) 1 bits) := do
  let last ← takeNat 1 bits
  let kind ← takeNat 2 last.rest
  let content ← takeContent kind.value kind.rest out
  let block := content.map fun out => (decide (last.value = 1), out)
  return (last.after (kind.after block)).weaken (by omega)

/-- Restores blocks up to the last one. -/
def inflateBlocks (bits : Bits) (out : Array UInt8) : Option (Array UInt8) :=
  match takeBlock bits out with
  | none => none
  | some ⟨(true, out), _, _⟩ => some out
  | some ⟨(false, out), rest, _⟩ => inflateBlocks rest out
termination_by bits.length

/-- The bytes that compressed data stands for. -/
def inflate (data : Bytes) : Option Bytes :=
  (inflateBlocks (.ofBytes data) #[]).map Array.toList

/-- The bytes of compressed data that starts with a header of two bytes: a method and a check. -/
def inflateWrapped : Bytes → Option Bytes
  | method :: check :: data =>
    if method.toNat % 16 = 8 ∧ (method.toNat * 256 + check.toNat) % 31 = 0
        ∧ check.toNat.testBit 5 = false then
      inflate data
    else none
  | _ => none

end Raster.Deflate
