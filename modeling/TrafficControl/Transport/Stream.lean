import TrafficControl.Bytes.Word
import TrafficControl.Transport.Fault

/-!
# Byte streams

A `Stream` is a duplex byte stream whose calls go as laid down beforehand: a call moves a piece of
the bytes it is asked to move, or it reports a fault. Reading and writing go on, call after call,
until every byte has been moved; a call that was interrupted is made again. What was moved before a
failure stays moved. Both loops end, since a call either uses up a planned outcome or moves a byte.
-/

namespace TrafficControl

/-- How one call goes. -/
inductive CallOutcome where
  /-- The call moves at most so many bytes. -/
  | moves (limit : Nat)
  | fails (fault : Fault)
  deriving DecidableEq, Repr

/-- A duplex byte stream. -/
structure Stream where
  /-- Bytes on their way in that were not read yet. -/
  inbound : Bytes := []
  /-- Bytes written so far. -/
  sent : Bytes := []
  /-- How the coming reading calls go. -/
  reads : List CallOutcome := []
  /-- How the coming writing calls go. -/
  writes : List CallOutcome := []
  /-- The most bytes a reading call moves once no outcome is planned. -/
  readLimit : Option Nat := none
  /-- The most bytes a writing call moves once no outcome is planned. -/
  writeLimit : Option Nat := none
  /-- What the next flush reports. -/
  flushFault : Option Fault := none
  deriving DecidableEq, Repr

/-- Work on a stream that may end with a fault. -/
abbrev Transfer := EStateM Fault Stream

namespace Stream

/-! ## Single calls -/

/-- Moves at most `limit` of the `wanted` bytes in. -/
def takeIn (wanted limit : Nat) (s : Stream) : Bytes × Stream :=
  let n := min wanted limit
  (s.inbound.take n, { s with inbound := s.inbound.drop n })

/-- A reading call for at most `wanted` bytes. No bytes are the end of the stream. -/
def readSome (wanted : Nat) : Transfer Bytes := fun s =>
  match s.reads with
  | .fails fault :: reads => .error fault { s with reads }
  | .moves limit :: reads =>
    let (bytes, s) := s.takeIn wanted limit
    .ok bytes { s with reads }
  | [] =>
    let (bytes, s) := s.takeIn wanted (s.readLimit.getD wanted)
    .ok bytes s

/-- Moves at most `limit` of the bytes offered out. -/
def takeOut (offered : Bytes) (limit : Nat) (s : Stream) : Nat × Stream :=
  let n := min offered.length limit
  (n, { s with sent := s.sent ++ offered.take n })

/-- A writing call with the bytes offered; gives how many were taken. -/
def writeSome (offered : Bytes) : Transfer Nat := fun s =>
  match s.writes with
  | .fails fault :: writes => .error fault { s with writes }
  | .moves limit :: writes =>
    let (n, s) := s.takeOut offered limit
    .ok n { s with writes }
  | [] =>
    let (n, s) := s.takeOut offered (s.writeLimit.getD offered.length)
    .ok n s

/-- Flushes what was written. A flush is not repeated. -/
def flush : Transfer Unit := fun s =>
  match s.flushFault with
  | some fault => .error fault { s with flushFault := none }
  | none => .ok () s

/-! ## What a call leaves to do -/

/-- A call moves no more bytes than are wanted. -/
theorem length_takeIn (wanted limit : Nat) (s : Stream) :
    (s.takeIn wanted limit).1.length ≤ wanted := by
  rw [takeIn, List.length_take]
  omega

/-- A call that moves bytes moves wanted ones, and no planned outcome comes back. -/
theorem readSome_ok {wanted : Nat} {s t : Stream} {bytes : Bytes}
    (h : readSome wanted s = .ok bytes t) :
    bytes.length ≤ wanted ∧ t.reads.length ≤ s.reads.length := by
  unfold readSome at h
  split at h
  case h_1 => cases h
  case h_2 limit reads hr =>
    cases h
    exact ⟨length_takeIn wanted limit s, by rw [hr]; exact Nat.le_succ _⟩
  case h_3 =>
    cases h
    exact ⟨length_takeIn wanted _ s, Nat.le_refl _⟩

/-- A call that reports a fault uses up a planned outcome. -/
theorem readSome_error {wanted : Nat} {s t : Stream} {fault : Fault}
    (h : readSome wanted s = .error fault t) : t.reads.length < s.reads.length := by
  unfold readSome at h
  split at h
  case h_1 planned reads hr =>
    cases h
    rw [hr]
    exact Nat.lt_succ_self _
  case h_2 => cases h
  case h_3 => cases h

/-- A call takes no more than is offered, and no planned outcome comes back. -/
theorem writeSome_ok {offered : Bytes} {s t : Stream} {n : Nat}
    (h : writeSome offered s = .ok n t) :
    n ≤ offered.length ∧ t.writes.length ≤ s.writes.length := by
  unfold writeSome at h
  split at h
  case h_1 => cases h
  case h_2 limit writes hw =>
    cases h
    exact ⟨Nat.min_le_left _ _, by rw [hw]; exact Nat.le_succ _⟩
  case h_3 =>
    cases h
    exact ⟨Nat.min_le_left _ _, Nat.le_refl _⟩

/-- A call that reports a fault uses up a planned outcome. -/
theorem writeSome_error {offered : Bytes} {s t : Stream} {fault : Fault}
    (h : writeSome offered s = .error fault t) : t.writes.length < s.writes.length := by
  unfold writeSome at h
  split at h
  case h_1 planned writes hw =>
    cases h
    rw [hw]
    exact Nat.lt_succ_self _
  case h_2 => cases h
  case h_3 => cases h

/-! ## Moving every byte -/

/-- Reads `need` bytes behind those already read in reverse. -/
def readOnto (need : Nat) (done : Bytes) (s : Stream) : EStateM.Result Fault Stream Bytes :=
  if need = 0 then .ok done.reverse s
  else
    match _h : readSome need s with
    | .ok [] t => .error .endOfStream t
    | .ok (b :: bytes) t => readOnto (need - (b :: bytes).length) ((b :: bytes).reverse ++ done) t
    | .error fault t => if fault.kind = .interrupted then readOnto need done t else .error fault t
  termination_by s.reads.length + need
  decreasing_by
  · have := readSome_ok _h
    simp only [List.length_cons] at this ⊢
    omega
  · have := readSome_error _h
    omega

/-- Reads exactly `need` bytes. -/
def readExactly (need : Nat) : Transfer Bytes := readOnto need []

/-- Writes every byte offered. -/
def writeAll (offered : Bytes) (s : Stream) : EStateM.Result Fault Stream Unit :=
  if offered = [] then .ok () s
  else
    match _h : writeSome offered s with
    | .ok 0 t => .error .nothingWritten t
    | .ok (n + 1) t => writeAll (offered.drop (n + 1)) t
    | .error fault t => if fault.kind = .interrupted then writeAll offered t else .error fault t
  termination_by s.writes.length + offered.length
  decreasing_by
  · have := writeSome_ok _h
    simp only [List.length_drop]
    omega
  · have := writeSome_error _h
    omega

end Stream

end TrafficControl
