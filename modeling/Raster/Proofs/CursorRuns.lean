import Raster.Proofs.GuardedReading
import Mathlib

/-!
# Reads, one after another

The reader of bitmap files goes through its data with calls on one cursor.  Here a cursor is called
any number of times, in any order, and each call is recorded as an `Event`: what was asked for, what
came of it, and where the cursor was before and after.

`Cursor.call_eq` says what a single call does, for all kinds of calls at once: it needs some bytes,
is refused if they are not all there, and otherwise finds what these bytes stand for and moves on.
That makes every event of a run `Event.Exact`, and the bytes that the events take are the data up to
the last position (`Cursor.transcript_exact`).

On a machine the cursor is one place in memory that a call changes on its way, so a call that stops
could leave it anywhere (`Machine.Moving`).  Position and counts are words, slices are guarded, and
the product that gives the bytes of some records is checked.  A run on the machine has the same
events.
-/

namespace Raster

open LittleEndian Bmp.Format

/-- A kind of records: how many bytes they have, at least one, and what these stand for. -/
structure RecordKind (α : Type) where
  size : Nat
  ofBytes : Bytes → α
  size_pos : 0 < size

variable {α β ε : Type}

namespace Cursor

/-! ## Calls -/

/-- What a cursor can be asked for. -/
inductive Call (α : Type) where
  /-- A 32-bit word, without moving past it. -/
  | peekUInt32
  | uint32
  | bytes (count : Nat)
  | record (kind : RecordKind α)
  | records (kind : RecordKind α) (count : Nat)

/-- What a call finds. -/
inductive Found (α : Type) where
  | uint32 (word : UInt32)
  | bytes (bytes : Bytes)
  | record (a : α)
  | records (as : List α)

namespace Call

/-- The number of bytes that have to be there. -/
def need : Call α → Nat
  | peekUInt32 | uint32 => 4
  | bytes count => count
  | record kind => kind.size
  | records kind count => count * kind.size

/-- The number of bytes by which the cursor moves on. -/
def moves : Call α → Nat
  | peekUInt32 => 0
  | k => k.need

/-- What the bytes that are needed stand for. -/
def found (bytes : Bytes) : Call α → Found α
  | peekUInt32 | uint32 => .uint32 (.ofNat (decode bytes))
  | .bytes _ => .bytes bytes
  | record kind => .record (kind.ofBytes bytes)
  | records kind count =>
    .records ((List.range count).map fun i =>
      kind.ofBytes (slice bytes (i * kind.size) kind.size))

lemma moves_le (k : Call α) : k.moves ≤ k.need := by
  cases k <;> simp [moves]

end Call

/-- What a call finds, and the cursor after it. -/
def call (c : Cursor) : Call α → Except Error (Found α × Cursor)
  | .peekUInt32 => c.peekUInt32.map fun word => (.uint32 word, c)
  | .uint32 => c.takeUInt32.map fun r => (.uint32 r.1, r.2)
  | .bytes count => (c.take count).map fun r => (.bytes r.1, r.2)
  | .record kind => (c.take kind.size).map fun r => (.record (kind.ofBytes r.1), r.2)
  | .records kind count =>
    (c.takeRecords kind.ofBytes kind.size count).map fun r => (.records r.1, r.2)

lemma pieces_eq_map_slice (count size : Nat) (bytes : Bytes) :
    pieces count size bytes = (List.range count).map fun i => slice bytes (i * size) size := by
  refine List.ext_getElem? fun i => ?_
  rw [List.getElem?_map]
  by_cases hi : i < count
  · rw [getElem?_pieces hi, List.getElem?_range hi]
    rfl
  · rw [List.getElem?_eq_none (by simpa using hi), List.getElem?_eq_none (by simpa using hi)]
    rfl

/-- What a call does: it is a check of what remains, and what it finds are the next bytes. -/
lemma call_eq (c : Cursor) (k : Call α) :
    c.call k = (require (k.need ≤ c.remaining.length) .endOfData).map fun _ =>
      (k.found (c.remaining.take k.need), ⟨c.data, c.position + k.moves⟩) := by
  have htake (count : Nat) : c.take count =
      (require (count ≤ c.remaining.length) .endOfData).map fun _ =>
        (c.remaining.take count, ⟨c.data, c.position + count⟩) := by
    rw [take_eq_bind, map_eq_bind]
  have hpeek : c.peekUInt32 =
      (require (4 ≤ c.remaining.length) .endOfData).map fun _ =>
        .ofNat (decode (c.remaining.take 4)) := by
    rw [peekUInt32_eq_bind, map_eq_bind]
    rfl
  cases k with
  | peekUInt32 =>
    rw [call, hpeek, Call.need]
    cases require (4 ≤ c.remaining.length) Error.endOfData <;> rfl
  | uint32 =>
    rw [call, takeUInt32, hpeek, Call.need]
    cases require (4 ≤ c.remaining.length) Error.endOfData <;> rfl
  | bytes count =>
    rw [call, htake, Call.need]
    cases require (count ≤ c.remaining.length) Error.endOfData <;> rfl
  | record kind =>
    rw [call, htake, Call.need]
    cases require (kind.size ≤ c.remaining.length) Error.endOfData <;> rfl
  | records kind count =>
    rw [call, takeRecords, htake, Call.need]
    simp only [pieces_eq_map_slice, List.map_map]
    cases require (count * kind.size ≤ c.remaining.length) Error.endOfData <;> rfl

/-! ## Runs -/

/-- A call in a run. -/
structure Event (ε α : Type) where
  call : Call α
  /-- The position before the call. -/
  before : Nat
  outcome : Except ε (Found α)
  /-- The position after the call. -/
  after : Nat

/-- Goes through some calls, each with the cursor that the one before it has left. -/
def transcript (perform : Cursor → Call α → Except ε (Found α) × Cursor) (c : Cursor) :
    List (Call α) → List (Event ε α)
  | [] => []
  | k :: ks =>
    ⟨k, c.position, (perform c k).1, (perform c k).2.position⟩ ::
      transcript perform (perform c k).2 ks

/-- The outcome of a call and the cursor that it leaves, which is the same one if it is refused. -/
def perform (c : Cursor) (k : Call α) : Except Error (Found α) × Cursor :=
  match c.call k with
  | .ok (a, c') => (.ok a, c')
  | .error e => (.error e, c)

/-- The position after a run that started at some position. -/
def lastPosition (start : Nat) (events : List (Event ε α)) : Nat :=
  (events.getLast?.map Event.after).getD start

namespace Event

/-- The bytes that a call has moved past, if it was not refused. -/
def taken (data : Bytes) (e : Event ε α) : Bytes :=
  match e.outcome with
  | .ok _ => slice data e.before (e.after - e.before)
  | .error _ => []

/-- A call that has done what it should: it succeeds if and only if the bytes that it needs are
there, finds what they stand for and moves on, and leaves the cursor where it was if it is refused.
-/
structure Exact (data : Bytes) (e : Event Error α) : Prop where
  before_le : e.before ≤ data.length
  after_le : e.after ≤ data.length
  succeeds_iff : (∃ a, e.outcome = .ok a) ↔ e.call.need ≤ data.length - e.before
  of_ok : ∀ a, e.outcome = .ok a →
    a = e.call.found (slice data e.before e.call.need) ∧ e.after = e.before + e.call.moves
  of_error : ∀ x, e.outcome = .error x → x.kind = .truncated ∧ e.after = e.before

end Event

variable {c : Cursor} {k : Call α}

lemma perform_of_le (h : k.need ≤ c.remaining.length) :
    perform c k =
      (.ok (k.found (c.remaining.take k.need)), ⟨c.data, c.position + k.moves⟩) := by
  rw [perform, call_eq, require, if_pos h]
  rfl

lemma perform_of_not_le (h : ¬ k.need ≤ c.remaining.length) :
    perform c k = (.error .endOfData, c) := by
  rw [perform, call_eq, require, if_neg h]
  rfl

lemma length_remaining (c : Cursor) : c.remaining.length = c.data.length - c.position :=
  List.length_drop

lemma data_perform (c : Cursor) (k : Call α) : (perform c k).2.data = c.data := by
  by_cases h : k.need ≤ c.remaining.length
  · rw [perform_of_le h]
  · rw [perform_of_not_le h]

/-- A call does not leave the data. -/
lemma position_perform_le (hc : c.position ≤ c.data.length) (k : Call α) :
    (perform c k).2.position ≤ c.data.length := by
  by_cases h : k.need ≤ c.remaining.length
  · have hmoves := k.moves_le
    rw [perform_of_le h]
    rw [length_remaining] at h
    show c.position + k.moves ≤ c.data.length
    omega
  · rw [perform_of_not_le h]
    exact hc

lemma exact_perform (hc : c.position ≤ c.data.length) (k : Call α) :
    Event.Exact c.data ⟨k, c.position, (perform c k).1, (perform c k).2.position⟩ := by
  have hafter := position_perform_le hc k
  by_cases h : k.need ≤ c.remaining.length
  · rw [perform_of_le h] at hafter ⊢
    rw [length_remaining] at h
    exact {
      before_le := hc
      after_le := hafter
      succeeds_iff := iff_of_true ⟨_, rfl⟩ h
      of_ok := fun a ha => ⟨(Except.ok.inj ha).symm, rfl⟩
      of_error := nofun }
  · rw [perform_of_not_le h] at hafter ⊢
    rw [length_remaining] at h
    exact {
      before_le := hc
      after_le := hafter
      succeeds_iff := iff_of_false nofun h
      of_ok := nofun
      of_error := fun x hx => ⟨Except.error.inj hx ▸ rfl, rfl⟩ }

/-- What a call takes brings the data up to its old position to its new one. -/
lemma take_append_taken (k : Call α) (c : Cursor) :
    c.data.take c.position ++
        Event.taken c.data ⟨k, c.position, (perform c k).1, (perform c k).2.position⟩ =
      c.data.take (perform c k).2.position := by
  by_cases h : k.need ≤ c.remaining.length
  · rw [perform_of_le h]
    show _ ++ slice c.data c.position (c.position + k.moves - c.position) = _
    rw [Nat.add_sub_cancel_left, slice, ← List.take_add]
  · rw [perform_of_not_le h]
    exact List.append_nil _

lemma map_call_transcript (f : Cursor → Call α → Except ε (Found α) × Cursor) (c : Cursor)
    (ks : List (Call α)) : (transcript f c ks).map Event.call = ks := by
  induction ks generalizing c with
  | nil => rfl
  | cons k ks ih => rw [transcript, List.map_cons, ih]

lemma exact_of_mem_transcript (hc : c.position ≤ c.data.length) (ks : List (Call α)) :
    ∀ e ∈ transcript perform c ks, e.Exact c.data := by
  induction ks generalizing c with
  | nil => exact fun e he => nomatch he
  | cons k ks ih =>
    have hdata := data_perform c k
    have hrest := ih (c := (perform c k).2) (hdata ▸ position_perform_le hc k)
    rw [hdata] at hrest
    exact List.forall_mem_cons.2 ⟨exact_perform hc k, hrest⟩

/-- In a run that starts at some position, the events take the data from there on. -/
lemma take_append_flatMap_taken (ks : List (Call α)) (c : Cursor) :
    c.data.take c.position ++ (transcript perform c ks).flatMap (Event.taken c.data) =
      c.data.take (lastPosition c.position (transcript perform c ks)) := by
  induction ks generalizing c with
  | nil => exact List.append_nil _
  | cons k ks ih =>
    have hrest := ih (perform c k).2
    rw [data_perform] at hrest
    rw [transcript, List.flatMap_cons, ← List.append_assoc, take_append_taken, hrest,
      lastPosition, lastPosition, List.getLast?_cons]
    cases (transcript perform (perform c k).2 ks).getLast? <;> rfl

end Cursor

/-! ## Calls on a machine -/

namespace Machine

open Cursor (Call Found Event)

/-- A computation on a cursor in one place: it has a result or stops, and the cursor stays where the
computation has moved it in both cases. -/
abbrev Moving (α : Type) := ExceptT Stop (StateM Cursor) α

namespace Moving

/-- A computation that does not move the cursor. -/
def still (f : Cursor → Except Stop α) : Moving α := fun c => (f c, c)

/-- Moves the cursor on. -/
def advance (count : Nat) : Moving Unit := do
  let position ← still fun c => add 64 c.position count
  modify fun c => { c with position }

def uint32 : Moving UInt32 := do
  let word ← still peekUInt32
  advance 4
  return word

def bytes (count : Nat) : Moving Bytes := do
  let rest ← still fun c => dropFirst c.data c.position
  still fun _ => refuse (require (count ≤ rest.length) .endOfData)
  let first ← still fun _ => takeFirst rest count
  advance count
  return first

/-- The bytes are taken for a record only after the cursor has moved on. -/
def record (kind : RecordKind α) : Moving α := do
  let first ← bytes kind.size
  still fun _ => guarded (first.length = kind.size) .assertion (kind.ofBytes first)

/-- A product that does not fit into a word is taken for missing data.  The bytes must be a multiple
of the size of a record, and are cut into as many records as there are. -/
def records (kind : RecordKind α) (count : Nat) : Moving (List α) := do
  still fun _ => refuse (require (count * kind.size < 2 ^ 64) .endOfData)
  let first ← bytes (count * kind.size)
  still fun _ => guarded (first.length % kind.size = 0) .assertion
    ((pieces (first.length / kind.size) kind.size first).map kind.ofBytes)

/-- Carries out a call. -/
def call : Call α → Moving (Found α)
  | .peekUInt32 => do return .uint32 (← still peekUInt32)
  | .uint32 => do return .uint32 (← uint32)
  | .bytes count => do return .bytes (← bytes count)
  | .record kind => do return .record (← record kind)
  | .records kind count => do return .records (← records kind count)

/-- What a read on numbers is on the machine: if it is refused, the cursor is where it was. -/
def settle (c : Cursor) : Except Error (α × Cursor) → Except Stop α × Cursor
  | .ok (a, c') => (.ok a, c')
  | .error e => (.error (.refused e), c)

variable {c : Cursor} {x : Moving α} {f : α → Moving β}

lemma bind_of_ok {a : α} {c' : Cursor} (h : x c = (.ok a, c')) : (x >>= f) c = f a c' := by
  show (ExceptT.bindCont f (x c).1) (x c).2 = _
  rw [h]
  rfl

lemma bind_of_error {e : Stop} {c' : Cursor} (h : x c = (.error e, c')) :
    (x >>= f) c = (.error e, c') := by
  show (ExceptT.bindCont f (x c).1) (x c).2 = _
  rw [h]
  rfl

lemma still_of_ok {g : Cursor → Except Stop α} {a : α} (h : g c = .ok a) :
    still g c = (.ok a, c) := by
  rw [still, h]

lemma still_of_error {g : Cursor → Except Stop α} {e : Stop} (h : g c = .error e) :
    still g c = (.error e, c) := by
  rw [still, h]

/-- A read is settled step by step.  What follows the first step must not be refused once the cursor
has moved: `c` is the cursor before both. -/
lemma bind_settle {y : Except Error (α × Cursor)} {g : α × Cursor → Except Error (β × Cursor)}
    (hx : x c = settle c y) (hf : ∀ r, y = .ok r → f r.1 r.2 = settle c (g r)) :
    (x >>= f) c = settle c (y >>= g) := by
  cases y with
  | error e => exact bind_of_error hx
  | ok r => exact (bind_of_ok hx).trans (hf r rfl)

/-! ## Calls on the machine are calls on numbers -/

lemma advance_eq (h : Within c) {count : Nat} (hcount : count ≤ c.remaining.length) :
    advance count c = (.ok (), ⟨c.data, c.position + count⟩) :=
  bind_of_ok (still_of_ok (add_position h hcount))

lemma peekUInt32_eq (h : Within c) :
    still peekUInt32 c = settle c (c.peekUInt32.map fun word => (word, c)) := by
  rw [still, peekUInt32_eq_refuse h]
  cases c.peekUInt32 <;> rfl

lemma uint32_eq (h : Within c) : uint32 c = settle c c.takeUInt32 := by
  have hread : c.takeUInt32 = (c.peekUInt32.map fun word => (word, c)) >>= fun r =>
      .ok (r.1, ⟨c.data, c.position + 4⟩) := by
    rw [Cursor.takeUInt32]
    cases c.peekUInt32 <;> rfl
  rw [hread]
  refine bind_settle (peekUInt32_eq h) ?_
  rintro ⟨word, c'⟩ hpeek
  obtain ⟨w, hw, hpair⟩ := map_eq_ok_iff.1 hpeek
  obtain ⟨rfl, rfl⟩ := Prod.ext_iff.1 hpair
  rw [Cursor.peekUInt32_eq_bind, bind_eq_ok_iff] at hw
  obtain ⟨u, hu, -⟩ := hw
  exact bind_of_ok (advance_eq h (require_eq_ok_iff.1 hu))

lemma bytes_eq (h : Within c) (count : Nat) : bytes count c = settle c (c.take count) := by
  rw [bytes, bind_of_ok (still_of_ok (dropFirst_eq h)), Cursor.take_eq_bind]
  by_cases hcount : count ≤ c.remaining.length
  · have hchecked : refuse (require (count ≤ c.remaining.length) .endOfData) = .ok () := by
      rw [require, if_pos hcount, refuse_ok]
    have hfirst : takeFirst c.remaining count = .ok (c.remaining.take count) := guarded_of hcount
    rw [require_bind hcount, bind_of_ok (still_of_ok hchecked), bind_of_ok (still_of_ok hfirst)]
    exact bind_of_ok (advance_eq h hcount)
  · have hrefused : refuse (require (count ≤ c.remaining.length) .endOfData) =
        .error (.refused .endOfData) := by
      rw [require, if_neg hcount, refuse_error]
    rw [require_bind_of_not hcount]
    exact bind_of_error (still_of_error hrefused)

lemma record_eq (h : Within c) (kind : RecordKind α) :
    record kind c = settle c ((c.take kind.size).map fun r => (kind.ofBytes r.1, r.2)) := by
  rw [map_eq_bind]
  refine bind_settle (bytes_eq h kind.size) ?_
  rintro ⟨first, c'⟩ htake
  exact still_of_ok (guarded_of (length_of_take htake))

/-- Records whose bytes are too many to be counted are not there. -/
lemma takeRecords_of_not_lt (h : Within c) {kind : RecordKind α} {count : Nat}
    (hlarge : ¬ count * kind.size < 2 ^ 64) :
    c.takeRecords kind.ofBytes kind.size count = .error .endOfData := by
  have hlt := h.length_lt
  have hmissing : ¬ count * kind.size ≤ c.remaining.length := by
    rw [Cursor.remaining, List.length_drop]
    omega
  rw [Cursor.takeRecords, Cursor.take_eq_bind, require_bind_of_not hmissing, error_bind]

lemma records_eq (h : Within c) (kind : RecordKind α) (count : Nat) :
    records kind count c = settle c (c.takeRecords kind.ofBytes kind.size count) := by
  by_cases hsmall : count * kind.size < 2 ^ 64
  · have hchecked : refuse (require (count * kind.size < 2 ^ 64) .endOfData) = .ok () := by
      rw [require, if_pos hsmall, refuse_ok]
    rw [records, bind_of_ok (still_of_ok hchecked), Cursor.takeRecords]
    refine bind_settle (bytes_eq h _) ?_
    rintro ⟨first, c'⟩ htake
    have hlength := length_of_take htake
    have hwhole : first.length % kind.size = 0 := by rw [hlength, Nat.mul_mod_left]
    have hcount : first.length / kind.size = count := by
      rw [hlength, Nat.mul_div_cancel _ kind.size_pos]
    have hcut : guarded (first.length % kind.size = 0) .assertion
        ((pieces (first.length / kind.size) kind.size first).map kind.ofBytes) =
          .ok ((pieces count kind.size first).map kind.ofBytes) := by
      rw [guarded_of hwhole, hcount]
    exact still_of_ok hcut
  · have hrefused : refuse (require (count * kind.size < 2 ^ 64) .endOfData) =
        .error (.refused .endOfData) := by
      rw [require, if_neg hsmall, refuse_error]
    rw [takeRecords_of_not_lt h hsmall]
    exact bind_of_error (still_of_error hrefused)

/-- What is found is given a name, and nothing else happens. -/
lemma bind_pure_eq {y : Except Error (α × Cursor)} (hx : x c = settle c y) (g : α → β) :
    (x >>= fun a => pure (g a)) c = settle c (y.map fun r => (g r.1, r.2)) := by
  rw [map_eq_bind]
  exact bind_settle hx fun r _ => rfl

/-- A call on the machine that starts within the data is the call on numbers. -/
lemma call_eq (h : Within c) (k : Call α) :
    call k c = ((c.perform k).1.mapError Stop.refused, (c.perform k).2) := by
  have hsettle : call k c = settle c (c.call k) := by
    cases k with
    | peekUInt32 =>
      have hread : c.call (.peekUInt32 : Call α) =
          (c.peekUInt32.map fun word => (word, c)).map fun r => (.uint32 r.1, r.2) := by
        rw [Cursor.call]
        cases c.peekUInt32 <;> rfl
      rw [hread]
      exact bind_pure_eq (peekUInt32_eq h) Found.uint32
    | uint32 => exact bind_pure_eq (uint32_eq h) Found.uint32
    | bytes count => exact bind_pure_eq (bytes_eq h count) Found.bytes
    | record kind =>
      have hread : c.call (.record kind) =
          ((c.take kind.size).map fun r => (kind.ofBytes r.1, r.2)).map fun r =>
            (.record r.1, r.2) := by
        rw [Cursor.call]
        cases c.take kind.size <;> rfl
      rw [hread]
      exact bind_pure_eq (record_eq h kind) Found.record
    | records kind count => exact bind_pure_eq (records_eq h kind count) Found.records
  rw [hsettle, Cursor.perform]
  cases c.call k <;> rfl

end Moving

/-- An event of a run on numbers, as one of a run on the machine. -/
def ofEvent (e : Event Error α) : Event Stop α :=
  ⟨e.call, e.before, e.outcome.mapError .refused, e.after⟩

lemma within_perform {c : Cursor} (h : Within c) (k : Call α) : Within (c.perform k).2 := by
  have hdata := Cursor.data_perform c k
  exact ⟨hdata ▸ Cursor.position_perform_le h.position_le k, hdata ▸ h.length_lt⟩

/-- A run on the machine has the events of the run on numbers. -/
lemma transcript_eq {c : Cursor} (h : Within c) (ks : List (Call α)) :
    Cursor.transcript (fun c k => Moving.call k c) c ks =
      (Cursor.transcript Cursor.perform c ks).map ofEvent := by
  induction ks generalizing c with
  | nil => rfl
  | cons k ks ih =>
    rw [Cursor.transcript, Moving.call_eq h, ih (within_perform h k)]
    rfl

end Machine

namespace Cursor

/-- **Reads never leave the data.**  In every run of calls from the start of some data, each call is
exact: it stays within the data, succeeds if and only if the bytes that it needs remain, finds what
these bytes stand for and moves past them, and is refused for the end of the data otherwise, without
moving.  What the calls take, put together, is the data up to the last position.  On data that is
small enough for a machine, the machine has the same run, so it never traps. -/
theorem transcript_exact (data : Bytes) (ks : List (Call α)) :
    (transcript perform (start data) ks).map Event.call = ks ∧
      (∀ e ∈ transcript perform (start data) ks, e.Exact data) ∧
      (transcript perform (start data) ks).flatMap (Event.taken data) =
        data.take (lastPosition 0 (transcript perform (start data) ks)) ∧
      (data.length < 2 ^ 63 →
        transcript (fun c k => Machine.Moving.call k c) (start data) ks =
          (transcript perform (start data) ks).map Machine.ofEvent) := by
  refine ⟨map_call_transcript perform _ ks, ?_, ?_, fun hdata => ?_⟩
  · exact exact_of_mem_transcript (c := start data) (Nat.zero_le _) ks
  · exact take_append_flatMap_taken ks (start data)
  · exact Machine.transcript_eq (Machine.within_start hdata) ks

/-- Records of two bytes, kept as they are. -/
def pairs : RecordKind Bytes := ⟨2, id, Nat.two_pos⟩

/-- Four records of two bytes are too many for seven bytes, and so are records whose bytes cannot be
counted in a word; both calls leave the cursor behind the first word. -/
theorem transcript_exact_sample :
    (transcript (fun c k => Machine.Moving.call k c) (start [1, 0, 0, 0, 5, 6, 7])
      [.peekUInt32, .uint32, .records pairs 4, .records pairs (2 ^ 63), .record pairs,
        .bytes 1]).map Event.after = [0, 4, 4, 4, 6, 7] := by
  obtain ⟨-, -, -, hmachine⟩ := transcript_exact [1, 0, 0, 0, 5, 6, 7]
    [.peekUInt32, .uint32, .records pairs 4, .records pairs (2 ^ 63), .record pairs, .bytes 1]
  rw [hmachine (by decide)]
  rfl

end Cursor

end Raster
