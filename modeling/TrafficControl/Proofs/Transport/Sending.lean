import TrafficControl.Proofs.Transport.Delivery

/-!
# What a round trip sends, however it ends

A round trip that fails may have failed while it was sending. What was sent until then stands in front of
the request, and there is nothing else; on a fluent stream only reading can fail, so that the whole
request was sent (`exchange_fails`).
-/

namespace TrafficControl

namespace Stream

variable {s t : Stream}

/-! ### Reading -/

/-- Reading sends nothing, even if it fails. -/
theorem readOnto_fails {need : Nat} {done : Bytes} {fault : Fault}
    (h : readOnto need done s = .error fault t) : t.sent = s.sent := by
  induction need, done, s using readOnto.induct with
  | case1 done s =>
    rw [readOnto, if_pos rfl] at h
    cases h
  | case2 need done s hneed u hread =>
    rw [readOnto_of_end hneed hread] at h
    cases h
    simpa using (readSome_moves hread).sent_eq
  | case3 need done s hneed b piece u hread ih =>
    rw [readOnto_of_piece hneed hread] at h
    rw [ih h]
    simpa using (readSome_moves hread).sent_eq
  | case4 need done s hneed fault' u hread hkind ih =>
    rw [readOnto_of_fault hneed hread, if_pos hkind] at h
    rw [ih h]
    simpa using (readSome_fails hread).sent_eq
  | case5 need done s hneed fault' u hread hkind =>
    rw [readOnto_of_fault hneed hread, if_neg hkind] at h
    cases h
    simpa using (readSome_fails hread).sent_eq

/-- Reading that succeeds leaves a fluent stream fluent. -/
theorem fluent_of_readExactly (h : s.Fluent) {need : Nat} {bytes : Bytes}
    (hread : readExactly need s = .ok bytes t) : t.Fluent := by
  obtain ⟨hlength, hmoves⟩ := readExactly_moves hread
  have hlen : need ≤ s.inbound.length := by
    rw [hmoves.inbound_eq, List.length_append, hlength]
    exact Nat.le_add_right _ _
  obtain ⟨bytes', t', hread', hfluent⟩ := readOnto_of_fluent need [] s h hlen
  cases hread.symm.trans hread'
  exact hfluent

/-! ### Writing -/

/-- Writing that fails has sent the first of the bytes offered. -/
theorem writeAll_fails {offered : Bytes} {fault : Fault} (h : writeAll offered s = .error fault t) :
    ∃ part, part <+: offered ∧ t.sent = s.sent ++ part := by
  induction offered, s using writeAll.induct with
  | case1 s =>
    rw [writeAll, if_pos rfl] at h
    cases h
  | case2 offered s hne u hwrite =>
    rw [writeAll_of_none hne hwrite] at h
    cases h
    refine ⟨[], List.nil_prefix, ?_⟩
    simpa using (writeSome_moves hwrite).sent_eq
  | case3 offered s hne n u hwrite ih =>
    rw [writeAll_of_piece hne hwrite] at h
    obtain ⟨part, hpart, hsent⟩ := ih h
    refine ⟨offered.take (n + 1) ++ part, ?_, ?_⟩
    · obtain ⟨left, hleft⟩ := hpart
      exact ⟨left, by rw [List.append_assoc, hleft, List.take_append_drop]⟩
    · rw [hsent, (writeSome_moves hwrite).sent_eq, List.append_assoc]
  | case4 offered s hne fault' u hwrite hkind ih =>
    rw [writeAll_of_fault hne hwrite, if_pos hkind] at h
    obtain ⟨part, hpart, hsent⟩ := ih h
    refine ⟨part, hpart, ?_⟩
    rw [hsent, (writeSome_fails hwrite).sent_eq, List.append_nil]
  | case5 offered s hne fault' u hwrite hkind =>
    rw [writeAll_of_fault hne hwrite, if_neg hkind] at h
    cases h
    refine ⟨[], List.nil_prefix, ?_⟩
    simpa using (writeSome_fails hwrite).sent_eq

/-! ### Round trips -/

theorem carry_fails {α : Type} {transfer : Transfer α} {e : ClientError}
    (h : carry transfer s = .error e t) : ∃ fault, transfer s = .error fault t := by
  unfold carry at h
  split at h
  · cases h
  · next fault u hu =>
    cases h
    exact ⟨fault, hu⟩

/-- A round trip that fails has sent the first bytes of the request, and all of them if the stream is
fluent. -/
theorem exchange_fails {request : Bytes} {e : ClientError} (h : exchange request s = .error e t) :
    ∃ part, part <+: request ∧ t.sent = s.sent ++ part ∧ (s.Fluent → part = request) := by
  rcases EStateM.bind_eq_error_iff.mp h with hstop | ⟨_, s₁, hwrite, h₁⟩
  · obtain ⟨fault, hwrite⟩ := carry_fails hstop
    obtain ⟨part, hpart, hsent⟩ := writeAll_fails hwrite
    refine ⟨part, hpart, hsent, fun hfluent => ?_⟩
    obtain ⟨t', hwritten, -⟩ := writeAll_of_fluent request s hfluent
    rw [hwritten] at hwrite
    cases hwrite
  -- from here on nothing is sent any more
  suffices hsent : t.sent = s₁.sent by
    refine ⟨request, List.prefix_rfl, ?_, fun _ => rfl⟩
    rw [hsent, (writeAll_moves (carry_eq_ok hwrite)).sent_eq]
  rcases EStateM.bind_eq_error_iff.mp h₁ with hstop | ⟨_, s₂, hflush, h₂⟩
  · obtain ⟨fault, hflush⟩ := carry_fails hstop
    unfold flush at hflush
    split at hflush <;> cases hflush
    rfl
  have hflushed : s₂.sent = s₁.sent := by
    simpa using (flush_moves (carry_eq_ok hflush)).sent_eq
  rcases EStateM.bind_eq_error_iff.mp h₂ with hstop | ⟨header, s₃, hheader, h₃⟩
  · obtain ⟨fault, hread⟩ := carry_fails hstop
    rw [readOnto_fails hread, hflushed]
  have hread₃ : s₃.sent = s₂.sent := by
    simpa using (readExactly_moves (carry_eq_ok hheader)).2.sent_eq
  rcases EStateM.bind_eq_error_iff.mp h₃ with hstop | ⟨total, s₄, hlift, h₄⟩
  · rcases hlength : frameLength header with e' | total
    · rw [hlength] at hstop
      cases hstop
      rw [hread₃, hflushed]
    · rw [hlength] at hstop
      cases hstop
  obtain ⟨-, rfl⟩ := liftExcept_eq_ok hlift
  rcases EStateM.bind_eq_error_iff.mp h₄ with hstop | ⟨body, s₅, -, h₅⟩
  · obtain ⟨fault, hread⟩ := carry_fails hstop
    rw [readOnto_fails hread, hread₃, hflushed]
  · cases h₅

/-- A round trip that succeeds leaves a fluent stream fluent. -/
theorem fluent_of_exchange (h : s.Fluent) {request reply : Bytes}
    (hexchange : exchange request s = .ok reply t) : t.Fluent := by
  obtain ⟨_, s₁, hwrite, hexchange⟩ := EStateM.bind_eq_ok_iff.mp hexchange
  obtain ⟨_, s₂, hflush, hexchange⟩ := EStateM.bind_eq_ok_iff.mp hexchange
  obtain ⟨header, s₃, hheader, hexchange⟩ := EStateM.bind_eq_ok_iff.mp hexchange
  obtain ⟨total, s₄, hlift, hexchange⟩ := EStateM.bind_eq_ok_iff.mp hexchange
  obtain ⟨body, s₅, hbody, hexchange⟩ := EStateM.bind_eq_ok_iff.mp hexchange
  cases hexchange
  obtain ⟨-, rfl⟩ := liftExcept_eq_ok hlift
  obtain ⟨s₁', hwritten, hfluent₁, -⟩ := writeAll_of_fluent request s h
  cases (carry_eq_ok hwrite).symm.trans hwritten
  have hfluent₂ : s₂.Fluent := by
    have hflushed := carry_eq_ok hflush
    unfold flush at hflushed
    rw [hfluent₁.flush] at hflushed
    cases hflushed
    exact hfluent₁
  exact fluent_of_readExactly (fluent_of_readExactly hfluent₂ (carry_eq_ok hheader)) (carry_eq_ok hbody)

end Stream

end TrafficControl
