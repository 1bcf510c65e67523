import TrafficControl.Proofs.Sequencing
import TrafficControl.Transport.Exchange

/-!
# What a round trip moves

`s.Moves written given t` says that between the states `s` and `t` of a stream the bytes `written`
were sent and the bytes `given` were read, no matter in what pieces, and no others. Work on a stream
that succeeds moves just what it was asked to move. A round trip therefore sends the request and
reads one whole frame (`exchange_eq_ok`), and a round trip that stops anywhere else reports a failure
after which the connection is not to be trusted (`isFatal_of_exchange`).
-/

namespace TrafficControl

namespace Stream

/-- Between two states of a stream some bytes were sent and some were read. -/
structure Moves (s : Stream) (written given : Bytes) (t : Stream) : Prop where
  sent_eq : t.sent = s.sent ++ written
  inbound_eq : s.inbound = given ++ t.inbound

/-- The first bytes tell the length of all bytes. -/
structure IsFrame (frame : Bytes) : Prop where
  header : frameHeader ≤ frame.length
  declared : Word.value (frame.take frameHeader) = frame.length

variable {s t u : Stream}

namespace Moves

theorem nothing (s : Stream) : s.Moves [] [] s := ⟨(List.append_nil _).symm, rfl⟩

theorem trans {written written' given given' : Bytes} (h : s.Moves written given t)
    (h' : t.Moves written' given' u) : s.Moves (written ++ written') (given ++ given') u where
  sent_eq := by rw [h'.sent_eq, h.sent_eq, List.append_assoc]
  inbound_eq := by rw [h.inbound_eq, h'.inbound_eq, List.append_assoc]

end Moves

/-! ### The loops, call by call -/

section loops

variable {need : Nat} {done offered : Bytes} {fault : Fault}

theorem readOnto_of_piece {b : UInt8} {piece : Bytes} (hneed : need ≠ 0)
    (h : readSome need s = .ok (b :: piece) t) :
    readOnto need done s =
      readOnto (need - (b :: piece).length) ((b :: piece).reverse ++ done) t := by
  rw [readOnto, if_neg hneed]
  split
  · next heq => rw [h] at heq; cases heq
  · next heq => rw [h] at heq; cases heq; rfl
  · next heq => rw [h] at heq; cases heq

theorem readOnto_of_end (hneed : need ≠ 0) (h : readSome need s = .ok [] t) :
    readOnto need done s = .error .endOfStream t := by
  rw [readOnto, if_neg hneed]
  split
  · next heq => rw [h] at heq; cases heq; rfl
  · next heq => rw [h] at heq; cases heq
  · next heq => rw [h] at heq; cases heq

theorem readOnto_of_fault (hneed : need ≠ 0) (h : readSome need s = .error fault t) :
    readOnto need done s =
      if fault.kind = .interrupted then readOnto need done t else .error fault t := by
  rw [readOnto, if_neg hneed]
  split
  · next heq => rw [h] at heq; cases heq
  · next heq => rw [h] at heq; cases heq
  · next heq => rw [h] at heq; cases heq; rfl

theorem writeAll_of_piece {n : Nat} (hne : offered ≠ [])
    (h : writeSome offered s = .ok (n + 1) t) :
    writeAll offered s = writeAll (offered.drop (n + 1)) t := by
  rw [writeAll, if_neg hne]
  split
  · next heq => rw [h] at heq; cases heq
  · next heq => rw [h] at heq; cases heq; rfl
  · next heq => rw [h] at heq; cases heq

theorem writeAll_of_none (hne : offered ≠ []) (h : writeSome offered s = .ok 0 t) :
    writeAll offered s = .error .nothingWritten t := by
  rw [writeAll, if_neg hne]
  split
  · next heq => rw [h] at heq; cases heq; rfl
  · next heq => rw [h] at heq; cases heq
  · next heq => rw [h] at heq; cases heq

theorem writeAll_of_fault (hne : offered ≠ []) (h : writeSome offered s = .error fault t) :
    writeAll offered s =
      if fault.kind = .interrupted then writeAll offered t else .error fault t := by
  rw [writeAll, if_neg hne]
  split
  · next heq => rw [h] at heq; cases heq
  · next heq => rw [h] at heq; cases heq
  · next heq => rw [h] at heq; cases heq; rfl

end loops

/-! ### Reading -/

/-- A reading call moves the bytes that it gives. -/
theorem readSome_moves {wanted : Nat} {bytes : Bytes} (h : readSome wanted s = .ok bytes t) :
    s.Moves [] bytes t := by
  unfold readSome at h
  split at h
  case h_1 => cases h
  case h_2 limit reads hs =>
    cases h
    exact ⟨(List.append_nil _).symm, (List.take_append_drop _ _).symm⟩
  case h_3 =>
    cases h
    exact ⟨(List.append_nil _).symm, (List.take_append_drop _ _).symm⟩

/-- A reading call that reports a fault moves nothing. -/
theorem readSome_fails {wanted : Nat} {fault : Fault} (h : readSome wanted s = .error fault t) :
    s.Moves [] [] t := by
  unfold readSome at h
  split at h
  case h_1 =>
    cases h
    exact ⟨(List.append_nil _).symm, rfl⟩
  case h_2 => cases h
  case h_3 => cases h

/-- Calls are made until as many bytes as needed have come in. -/
theorem readOnto_moves {need : Nat} {done bytes : Bytes} (h : readOnto need done s = .ok bytes t) :
    ∃ given, bytes = done.reverse ++ given ∧ given.length = need ∧ s.Moves [] given t := by
  induction need, done, s using readOnto.induct with
  | case1 done s =>
    rw [readOnto, if_pos rfl] at h
    cases h
    exact ⟨[], (List.append_nil _).symm, rfl, .nothing _⟩
  | case2 need done s hneed s₁ hread =>
    rw [readOnto_of_end hneed hread] at h
    cases h
  | case3 need done s hneed b piece s₁ hread ih =>
    rw [readOnto_of_piece hneed hread] at h
    obtain ⟨given, rfl, hlen, hmoves⟩ := ih h
    have hle := (readSome_ok hread).1
    refine ⟨(b :: piece) ++ given, ?_, ?_, (readSome_moves hread).trans hmoves⟩
    · rw [List.reverse_append, List.reverse_reverse, List.append_assoc]
    · rw [List.length_append, hlen]
      omega
  | case4 need done s hneed fault s₁ hread hkind ih =>
    rw [readOnto_of_fault hneed hread, if_pos hkind] at h
    obtain ⟨given, hbytes, hlen, hmoves⟩ := ih h
    exact ⟨given, hbytes, hlen, (readSome_fails hread).trans hmoves⟩
  | case5 need done s hneed fault s₁ hread hkind =>
    rw [readOnto_of_fault hneed hread, if_neg hkind] at h
    cases h

theorem readExactly_moves {need : Nat} {bytes : Bytes} (h : readExactly need s = .ok bytes t) :
    bytes.length = need ∧ s.Moves [] bytes t := by
  obtain ⟨given, rfl, hlen, hmoves⟩ := readOnto_moves h
  exact ⟨hlen, hmoves⟩

/-! ### Writing -/

/-- A writing call moves the first of the bytes offered. -/
theorem writeSome_moves {offered : Bytes} {n : Nat} (h : writeSome offered s = .ok n t) :
    s.Moves (offered.take n) [] t := by
  unfold writeSome at h
  split at h
  case h_1 => cases h
  case h_2 =>
    cases h
    exact ⟨rfl, rfl⟩
  case h_3 =>
    cases h
    exact ⟨rfl, rfl⟩

/-- A writing call that reports a fault moves nothing. -/
theorem writeSome_fails {offered : Bytes} {fault : Fault} (h : writeSome offered s = .error fault t) :
    s.Moves [] [] t := by
  unfold writeSome at h
  split at h
  case h_1 =>
    cases h
    exact ⟨(List.append_nil _).symm, rfl⟩
  case h_2 => cases h
  case h_3 => cases h

/-- Calls are made until every byte offered is out. -/
theorem writeAll_moves {offered : Bytes} (h : writeAll offered s = .ok () t) :
    s.Moves offered [] t := by
  induction offered, s using writeAll.induct with
  | case1 s =>
    rw [writeAll, if_pos rfl] at h
    cases h
    exact .nothing _
  | case2 offered s hne s₁ hwrite =>
    rw [writeAll_of_none hne hwrite] at h
    cases h
  | case3 offered s hne n s₁ hwrite ih =>
    rw [writeAll_of_piece hne hwrite] at h
    have hmoves := (writeSome_moves hwrite).trans (ih h)
    rwa [List.take_append_drop] at hmoves
  | case4 offered s hne fault s₁ hwrite hkind ih =>
    rw [writeAll_of_fault hne hwrite, if_pos hkind] at h
    exact (writeSome_fails hwrite).trans (ih h)
  | case5 offered s hne fault s₁ hwrite hkind =>
    rw [writeAll_of_fault hne hwrite, if_neg hkind] at h
    cases h

theorem flush_moves (h : flush s = .ok () t) : s.Moves [] [] t := by
  unfold flush at h
  split at h
  · cases h
  · cases h
    exact .nothing _

/-! ### Round trips -/

theorem carry_eq_ok {α : Type} {transfer : Transfer α} {a : α} (h : carry transfer s = .ok a t) :
    transfer s = .ok a t := by
  unfold carry at h
  split at h
  · next hx =>
    cases h
    exact hx
  · cases h

theorem carry_eq_error {α : Type} {transfer : Transfer α} {e : ClientError}
    (h : carry transfer s = .error e t) : ∃ fault, e = .transport fault := by
  unfold carry at h
  split at h
  · cases h
  · cases h
    exact ⟨_, rfl⟩

theorem frameLength_eq_ok {header : Bytes} {total : Nat} (h : frameLength header = .ok total) :
    Word.value header = total ∧ frameHeader ≤ total := by
  unfold frameLength at h
  dsimp only at h
  split at h
  · cases h
  · next hle =>
    split at h
    · cases h
    · cases h
      exact ⟨rfl, Nat.le_of_not_lt hle⟩

theorem isFatal_of_frameLength {header : Bytes} {e : ClientError}
    (h : frameLength header = .error e) : e.isFatal = true := by
  unfold frameLength at h
  dsimp only at h
  split at h
  · cases h
    rfl
  · split at h
    · cases h
      rfl
    · cases h

theorem liftExcept_eq_ok {α : Type} {x : Except ClientError α} {a : α}
    (h : exchange.liftExcept x s = .ok a t) : x = .ok a ∧ t = s := by
  cases x <;> cases h
  exact ⟨rfl, rfl⟩

/-- A round trip that succeeds has sent the request and read one frame. -/
theorem exchange_eq_ok {request reply : Bytes} (h : exchange request s = .ok reply t) :
    s.Moves request reply t ∧ IsFrame reply := by
  obtain ⟨_, s₁, hwrite, h⟩ := EStateM.bind_eq_ok_iff.mp h
  obtain ⟨_, s₂, hflush, h⟩ := EStateM.bind_eq_ok_iff.mp h
  obtain ⟨header, s₃, hheader, h⟩ := EStateM.bind_eq_ok_iff.mp h
  obtain ⟨total, s₄, hlift, h⟩ := EStateM.bind_eq_ok_iff.mp h
  obtain ⟨body, s₅, hbody, h⟩ := EStateM.bind_eq_ok_iff.mp h
  cases h
  obtain ⟨htotal, rfl⟩ := liftExcept_eq_ok hlift
  obtain ⟨hvalue, hle⟩ := frameLength_eq_ok htotal
  obtain ⟨hheaderLength, hmoves₃⟩ := readExactly_moves (carry_eq_ok hheader)
  obtain ⟨hbodyLength, hmoves₅⟩ := readExactly_moves (carry_eq_ok hbody)
  have hsent := (writeAll_moves (carry_eq_ok hwrite)).trans (flush_moves (carry_eq_ok hflush))
  have hmoves := (hsent.trans hmoves₃).trans hmoves₅
  have hlength : (header ++ body).length = total := by
    rw [List.length_append, hheaderLength, hbodyLength]
    omega
  refine ⟨?_, ?_, ?_⟩
  · simpa only [List.append_nil, List.nil_append] using hmoves
  · rw [hlength]
    exact hle
  · rw [List.take_left' hheaderLength, hvalue, hlength]

/-- A round trip that fails reports a fault of the stream, or a length that no response can have. -/
theorem exchange_eq_error {request : Bytes} {e : ClientError} (h : exchange request s = .error e t) :
    (∃ fault, e = .transport fault) ∨ ∃ header, frameLength header = .error e := by
  rcases EStateM.bind_eq_error_iff.mp h with h | ⟨_, s₁, -, h⟩
  · exact Or.inl (carry_eq_error h)
  rcases EStateM.bind_eq_error_iff.mp h with h | ⟨_, s₂, -, h⟩
  · exact Or.inl (carry_eq_error h)
  rcases EStateM.bind_eq_error_iff.mp h with h | ⟨header, s₃, -, h⟩
  · exact Or.inl (carry_eq_error h)
  rcases EStateM.bind_eq_error_iff.mp h with h | ⟨total, s₄, -, h⟩
  · refine Or.inr ⟨header, ?_⟩
    rcases hlength : frameLength header with e' | total
    · rw [hlength] at h
      cases h
      rfl
    · rw [hlength] at h
      cases h
  rcases EStateM.bind_eq_error_iff.mp h with h | ⟨body, s₅, -, h⟩
  · exact Or.inl (carry_eq_error h)
  · cases h

/-- A round trip that fails reports that the connection is not to be trusted. -/
theorem isFatal_of_exchange {request : Bytes} {e : ClientError}
    (h : exchange request s = .error e t) : e.isFatal = true := by
  rcases exchange_eq_error h with ⟨fault, rfl⟩ | ⟨header, hlength⟩
  · rfl
  · exact isFatal_of_frameLength hlength

end Stream

end TrafficControl
