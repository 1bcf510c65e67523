import TrafficControl.Proofs.Transport.Sending

/-!
# Round trips do not depend on the pieces

Streams move bytes in pieces of any size, and calls on them may be interrupted. As long as no call fails for
good, none of this shows in a round trip. The request is sent as it is. What is given for it, and what is left
unread, follows from the bytes that are on their way in, as `received` says.

* `readOnto_of_short`: what becomes of reading more bytes than there are.
* `receive_eq_received`: what becomes of the bytes on their way in.
* `exchange_whatever_pieces`: two streams that bring the same bytes.
-/

namespace TrafficControl

/-- How a computation ends that gives a result and leaves a state. -/
def Except.leaving {ε σ α : Type} (result : Except ε α) (s : σ) : EStateM.Result ε σ α :=
  match result with
  | .ok a => .ok a s
  | .error e => .error e s

namespace Stream

/-- What a round trip gives when these bytes are on their way in, and which of them it leaves unread. The first
four tell the length of the first frame. A length that no frame can have costs only those four, while a frame
that is cut short costs all there is. -/
def received (inbound : Bytes) : Except ClientError Bytes × Bytes :=
  let total := Word.value (inbound.take 4)
  if inbound.length < 4 then (.error (.transport .endOfStream), [])
  else if total < 4 then (.error (.framing (.malformedLength total)), inbound.drop 4)
  else if 64 * 1024 * 1024 < total then (.error (.framing (.frameTooLarge total)), inbound.drop 4)
  else if inbound.length < total then (.error (.transport .endOfStream), [])
  else (.ok (inbound.take total), inbound.drop total)

variable {s t : Stream}

/-! ### Bytes that are not enough -/

/-- Reading more than there is comes to the end of the stream and leaves nothing. -/
theorem readOnto_of_short (need : Nat) (done : Bytes) (s : Stream) (h : s.Fluent)
    (hlen : s.inbound.length < need) :
    ∃ t, readOnto need done s = .error .endOfStream t ∧ t.inbound = [] := by
  induction need, done, s using readOnto.induct with
  | case1 done s => omega
  | case2 need done s hneed t hread =>
    -- a call that gives nothing has found nothing
    have hempty : s.inbound = [] := by
      rcases hin : s.inbound with _ | ⟨b, rest⟩
      · rfl
      · exact absurd rfl (readSome_ok_of_fluent h hneed (by simp [hin]) hread).1
    have hmoved := (readSome_moves hread).inbound_eq
    rw [hempty, List.nil_append] at hmoved
    exact ⟨t, readOnto_of_end hneed hread, hmoved.symm⟩
  | case3 need done s hneed b piece t hread ih =>
    have hmoved := (readSome_moves hread).inbound_eq
    have hin : s.inbound ≠ [] := by simp [hmoved]
    have hlength := congrArg List.length hmoved
    rw [List.length_append] at hlength
    rw [readOnto_of_piece hneed hread]
    exact ih (readSome_ok_of_fluent h hneed hin hread).2 (by omega)
  | case4 need done s hneed fault t hread hkind ih =>
    have hsame : s.inbound = t.inbound := (readSome_fails hread).inbound_eq
    rw [readOnto_of_fault hneed hread, if_pos hkind]
    exact ih (readSome_error_of_fluent h hread).2 (hsame ▸ hlen)
  | case5 need done s hneed fault t hread hkind =>
    exact absurd (readSome_error_of_fluent h hread).1 hkind

theorem readExactly_of_short (h : s.Fluent) {need : Nat} (hlen : s.inbound.length < need) :
    ∃ t, readExactly need s = .error .endOfStream t ∧ t.inbound = [] :=
  readOnto_of_short need [] s h hlen

/-- Of bytes that are enough the first are read. -/
theorem readExactly_of_enough (h : s.Fluent) {need : Nat} (hlen : need ≤ s.inbound.length) :
    ∃ t, readExactly need s = .ok (s.inbound.take need) t ∧ t.Fluent ∧
      t.inbound = s.inbound.drop need := by
  have hin : s.inbound = s.inbound.take need ++ s.inbound.drop need :=
    (List.take_append_drop _ _).symm
  obtain ⟨t, hread, ht, hleft⟩ := readExactly_of_fluent h hin
  rw [List.length_take_of_le hlen] at hread
  exact ⟨t, hread, ht, hleft⟩

theorem carry_of_error {α : Type} {transfer : Transfer α} {fault : Fault}
    (h : transfer s = .error fault t) : carry transfer s = .error (.transport fault) t := by
  unfold carry
  rw [h]

/-! ### What is received -/

theorem frameLength_of_less {header : Bytes} (h : Word.value header < frameHeader) :
    frameLength header = .error (.framing (.malformedLength (Word.value header))) := by
  simp [frameLength, h]

theorem frameLength_of_more {header : Bytes} (h : maxFrame < Word.value header) :
    frameLength header = .error (.framing (.frameTooLarge (Word.value header))) := by
  have hnotless : ¬ Word.value header < frameHeader := by
    unfold maxFrame at h
    unfold frameHeader
    omega
  simp [frameLength, hnotless, h]

/-- A body whose length a response can have is taken, or the stream comes to its end. -/
theorem receiveBody_of_fits (h : s.Fluent) {header : Bytes}
    (hle : frameHeader ≤ Word.value header) (hmax : Word.value header ≤ maxFrame) :
    ∃ t, receiveBody header s =
        Except.leaving (if s.inbound.length < Word.value header - frameHeader
          then .error (.transport .endOfStream)
          else .ok (header ++ s.inbound.take (Word.value header - frameHeader))) t ∧
      t.inbound = if s.inbound.length < Word.value header - frameHeader then []
        else s.inbound.drop (Word.value header - frameHeader) := by
  unfold receiveBody
  rw [frameLength_of_fits rfl hle hmax,
    EStateM.bind_of_ok (x := exchange.liftExcept (.ok (Word.value header))) rfl]
  by_cases hshort : s.inbound.length < Word.value header - frameHeader
  · obtain ⟨t, hread, hempty⟩ := readExactly_of_short h hshort
    simp only [if_pos hshort]
    exact ⟨t, EStateM.bind_of_error (carry_of_error hread), hempty⟩
  · obtain ⟨t, hread, -, hleft⟩ := readExactly_of_enough h (Nat.le_of_not_lt hshort)
    simp only [if_neg hshort]
    exact ⟨t, EStateM.bind_of_ok (carry_of_ok hread), hleft⟩

/-- A fluent stream brings what is received of the bytes on their way in. -/
theorem receive_eq_received (h : s.Fluent) :
    ∃ t, receive s = Except.leaving (received s.inbound).1 t ∧
      t.inbound = (received s.inbound).2 := by
  by_cases hshort : s.inbound.length < 4
  · obtain ⟨t, hread, hempty⟩ := readExactly_of_short h hshort
    simp only [received, if_pos hshort]
    exact ⟨t, EStateM.bind_of_error (carry_of_error hread), hempty⟩
  obtain ⟨t, hread, ht, hleft⟩ := readExactly_of_enough h (Nat.le_of_not_lt hshort)
  have hreceive : receive s = receiveBody (s.inbound.take 4) t :=
    EStateM.bind_of_ok (carry_of_ok hread)
  by_cases hless : Word.value (s.inbound.take 4) < 4
  · simp only [received, if_neg hshort, if_pos hless]
    refine ⟨t, ?_, hleft⟩
    rw [hreceive, receiveBody, frameLength_of_less hless]
    rfl
  by_cases hmore : 64 * 1024 * 1024 < Word.value (s.inbound.take 4)
  · simp only [received, if_neg hshort, if_neg hless, if_pos hmore]
    refine ⟨t, ?_, hleft⟩
    rw [hreceive, receiveBody, frameLength_of_more hmore]
    rfl
  obtain ⟨u, hbody, hrest⟩ :=
    receiveBody_of_fits ht (Nat.le_of_not_lt hless) (Nat.le_of_not_lt hmore)
  rw [← hreceive, hleft, List.length_drop] at hbody
  rw [hleft, List.length_drop] at hrest
  have hcut : s.inbound.length - 4 < Word.value (s.inbound.take 4) - frameHeader ↔
      s.inbound.length < Word.value (s.inbound.take 4) := by
    unfold frameHeader
    omega
  have htotal : 4 + (Word.value (s.inbound.take 4) - 4) = Word.value (s.inbound.take 4) := by
    omega
  simp only [received, if_neg hshort, if_neg hless, if_neg hmore]
  refine ⟨u, ?_, ?_⟩
  · rw [hbody]
    simp only [hcut]
    split
    · rfl
    · rw [frameHeader, ← List.take_add, htotal]
  · rw [hrest]
    simp only [hcut]
    split
    · rfl
    · rw [frameHeader, List.drop_drop, htotal]

/-- A round trip over a fluent stream sends the request, gives what is received, and leaves the rest. -/
theorem exchange_eq_received (h : s.Fluent) (request : Bytes) :
    ∃ t, exchange request s = Except.leaving (received s.inbound).1 t ∧
      t.sent = s.sent ++ request ∧ t.inbound = (received s.inbound).2 := by
  obtain ⟨s₁, hsent, hs₁, hin₁⟩ := exchange_of_sent h request
  obtain ⟨t, hreceive, hleft⟩ := receive_eq_received hs₁
  rw [← hsent, hin₁] at hreceive
  rw [hin₁] at hleft
  refine ⟨t, hreceive, ?_, hleft⟩
  rcases hresult : (received s.inbound).1 with e | reply
  · rw [hresult] at hreceive
    obtain ⟨part, -, hpart, hall⟩ := exchange_fails hreceive
    rw [hpart, hall h]
  · rw [hresult] at hreceive
    exact (exchange_eq_ok hreceive).1.sent_eq

/-- However two streams cut the bytes that they bring and the bytes that they take, and whenever their calls are
interrupted, a round trip ends in the same way on both if the same bytes are on their way in. It sends just the
request, gives what is received of those bytes, and leaves the same ones unread. -/
theorem exchange_whatever_pieces (hs : s.Fluent) (ht : t.Fluent) (hin : s.inbound = t.inbound)
    (request : Bytes) :
    ∃ s' t', exchange request s = Except.leaving (received s.inbound).1 s' ∧
      exchange request t = Except.leaving (received s.inbound).1 t' ∧
      s'.sent = s.sent ++ request ∧ t'.sent = t.sent ++ request ∧
      s'.inbound = (received s.inbound).2 ∧ t'.inbound = (received s.inbound).2 := by
  obtain ⟨s', hs', hsent, hleft⟩ := exchange_eq_received hs request
  obtain ⟨t', ht', hsent', hleft'⟩ := exchange_eq_received ht request
  rw [← hin] at ht' hleft'
  exact ⟨s', t', hs', ht', hsent, hsent', hleft, hleft'⟩

/-- A frame that comes at once, with two bytes of the next behind it, and the same bytes in pieces. -/
theorem exchange_at_once_and_in_pieces :
    ∃ s' t' : Stream,
      exchange [0, 0, 0, 4] { inbound := [0, 0, 0, 6, 2, 127, 0, 0] } = .ok [0, 0, 0, 6, 2, 127] s' ∧
      exchange [0, 0, 0, 4]
        { inbound := [0, 0, 0, 6, 2, 127, 0, 0],
          reads := [.moves 3, .fails ⟨.interrupted, ""⟩, .moves 1, .fails ⟨.interrupted, ""⟩],
          writes := [.fails ⟨.interrupted, ""⟩, .moves 1],
          readLimit := some 1, writeLimit := some 2 } = .ok [0, 0, 0, 6, 2, 127] t' ∧
      s'.sent = [0, 0, 0, 4] ∧ t'.sent = [0, 0, 0, 4] ∧
      s'.inbound = [0, 0] ∧ t'.inbound = [0, 0] := by
  have hwhole : Fluent { inbound := [0, 0, 0, 6, 2, 127, 0, 0] } :=
    ⟨by simp, by simp, by decide, by decide, rfl⟩
  have hpieces : Fluent
      { inbound := [0, 0, 0, 6, 2, 127, 0, 0],
        reads := [.moves 3, .fails ⟨.interrupted, ""⟩, .moves 1, .fails ⟨.interrupted, ""⟩],
        writes := [.fails ⟨.interrupted, ""⟩, .moves 1],
        readLimit := some 1, writeLimit := some 2 } :=
    ⟨by simp [CallOutcome.Goes], by simp [CallOutcome.Goes], by decide, by decide, rfl⟩
  exact exchange_whatever_pieces hwhole hpieces rfl [0, 0, 0, 4]

end Stream

end TrafficControl
