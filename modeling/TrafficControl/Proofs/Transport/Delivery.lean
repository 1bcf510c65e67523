import TrafficControl.Proofs.Transport.Moves
import TrafficControl.Protocol.Message

/-!
# Round trips over a stream that does not fail

A stream is fluent if no call on it fails for good: every call moves something, or is interrupted and
made again. Calls may still cut what they move into pieces of any size. Over a fluent stream every
byte offered is written, as many bytes as asked for are read, and a round trip sends the request and
takes one frame, whatever the pieces (`exchange_of_fluent`).
-/

namespace TrafficControl

/-- A call that moves something, or is made again. -/
def CallOutcome.Goes : CallOutcome → Prop
  | .moves limit => limit ≠ 0
  | .fails fault => fault.kind = .interrupted

namespace Stream

/-- No call fails for good. -/
structure Fluent (s : Stream) : Prop where
  reads : ∀ o ∈ s.reads, o.Goes
  writes : ∀ o ∈ s.writes, o.Goes
  readLimit : s.readLimit ≠ some 0
  writeLimit : s.writeLimit ≠ some 0
  flush : s.flushFault = none

/-- A stream on which responses wait to be read. -/
def awaiting (responses : List (List Container)) : Stream where
  inbound := (responses.map fun containers => (Response.encode containers).toOption.getD []).flatten

namespace Fluent

variable {s t : Stream}

theorem awaiting (responses : List (List Container)) : (Stream.awaiting responses).Fluent :=
  ⟨fun _ h => absurd h List.not_mem_nil, fun _ h => absurd h List.not_mem_nil,
    Option.some_ne_none 0 ∘ Eq.symm, Option.some_ne_none 0 ∘ Eq.symm, rfl⟩

theorem takeIn (h : s.Fluent) (wanted limit : Nat) : (s.takeIn wanted limit).2.Fluent :=
  ⟨h.reads, h.writes, h.readLimit, h.writeLimit, h.flush⟩

theorem takeOut (h : s.Fluent) (offered : Bytes) (limit : Nat) :
    (s.takeOut offered limit).2.Fluent :=
  ⟨h.reads, h.writes, h.readLimit, h.writeLimit, h.flush⟩

theorem nextReads (h : s.Fluent) {o : CallOutcome} {reads : List CallOutcome}
    (hs : s.reads = o :: reads) : ({ s with reads } : Stream).Fluent :=
  ⟨fun x hx => h.reads x (hs ▸ List.mem_cons_of_mem o hx), h.writes, h.readLimit, h.writeLimit,
    h.flush⟩

theorem nextWrites (h : s.Fluent) {o : CallOutcome} {writes : List CallOutcome}
    (hs : s.writes = o :: writes) : ({ s with writes } : Stream).Fluent :=
  ⟨h.reads, fun x hx => h.writes x (hs ▸ List.mem_cons_of_mem o hx), h.readLimit, h.writeLimit,
    h.flush⟩

end Fluent

theorem getD_ne_zero {limit : Option Nat} {n : Nat} (h : limit ≠ some 0) (hn : n ≠ 0) :
    limit.getD n ≠ 0 := by
  cases limit with
  | none => exact hn
  | some k => exact fun hk => h (congrArg some hk)

/-! ### Reading -/

/-- A fluent reading call moves at least one byte, if there is one to move. -/
theorem readSome_ok_of_fluent {s t : Stream} {wanted : Nat} {bytes : Bytes} (h : s.Fluent)
    (hwanted : wanted ≠ 0) (hin : s.inbound ≠ []) (hread : readSome wanted s = .ok bytes t) :
    bytes ≠ [] ∧ t.Fluent := by
  obtain ⟨limit, hlimit, hbytes, hfluent⟩ : ∃ limit, limit ≠ 0 ∧
      bytes = s.inbound.take (min wanted limit) ∧ t.Fluent := by
    unfold readSome at hread
    split at hread
    case h_1 => cases hread
    case h_2 limit reads hs =>
      cases hread
      have hgoes : (CallOutcome.moves limit).Goes := h.reads _ (hs ▸ List.mem_cons_self)
      exact ⟨limit, hgoes, rfl, (h.takeIn _ _).nextReads hs⟩
    case h_3 =>
      cases hread
      exact ⟨s.readLimit.getD wanted, getD_ne_zero h.readLimit hwanted, rfl, h.takeIn _ _⟩
  refine ⟨?_, hfluent⟩
  have hpos := List.length_pos_iff.mpr hin
  rw [← List.length_pos_iff, hbytes, List.length_take]
  omega

/-- A fluent reading call that fails was interrupted. -/
theorem readSome_error_of_fluent {s t : Stream} {wanted : Nat} {fault : Fault} (h : s.Fluent)
    (hread : readSome wanted s = .error fault t) : fault.kind = .interrupted ∧ t.Fluent := by
  unfold readSome at hread
  split at hread
  case h_1 planned reads hs =>
    cases hread
    have hgoes : (CallOutcome.fails fault).Goes := h.reads _ (hs ▸ List.mem_cons_self)
    exact ⟨hgoes, h.nextReads hs⟩
  case h_2 => cases hread
  case h_3 => cases hread

/-- As many bytes as asked for are read, if there are as many. -/
theorem readOnto_of_fluent (need : Nat) (done : Bytes) (s : Stream) (h : s.Fluent)
    (hlen : need ≤ s.inbound.length) : ∃ bytes t, readOnto need done s = .ok bytes t ∧ t.Fluent := by
  induction need, done, s using readOnto.induct with
  | case1 done s =>
    refine ⟨done.reverse, s, ?_, h⟩
    rw [readOnto, if_pos rfl]
  | case2 need done s hneed t hread =>
    have hin : s.inbound ≠ [] := List.length_pos_iff.mp (by omega)
    exact absurd rfl (readSome_ok_of_fluent h hneed hin hread).1
  | case3 need done s hneed b piece t hread ih =>
    have hin : s.inbound ≠ [] := List.length_pos_iff.mp (by omega)
    have hmoved := congrArg List.length (readSome_moves hread).inbound_eq
    rw [List.length_append] at hmoved
    rw [readOnto_of_piece hneed hread]
    exact ih (readSome_ok_of_fluent h hneed hin hread).2 (by omega)
  | case4 need done s hneed fault t hread hkind ih =>
    have hsame : s.inbound = t.inbound := (readSome_fails hread).inbound_eq
    rw [readOnto_of_fault hneed hread, if_pos hkind]
    exact ih (readSome_error_of_fluent h hread).2 (hsame ▸ hlen)
  | case5 need done s hneed fault t hread hkind =>
    exact absurd (readSome_error_of_fluent h hread).1 hkind

/-- The bytes that are read are those that stand in front. -/
theorem readExactly_of_fluent {s : Stream} (h : s.Fluent) {front back : Bytes}
    (hin : s.inbound = front ++ back) :
    ∃ t, readExactly front.length s = .ok front t ∧ t.Fluent ∧ t.inbound = back := by
  have hlen : front.length ≤ s.inbound.length := by
    rw [hin, List.length_append]
    exact Nat.le_add_right _ _
  obtain ⟨bytes, t, hread, hfluent⟩ := readOnto_of_fluent front.length [] s h hlen
  obtain ⟨hlength, hmoves⟩ := readExactly_moves hread
  obtain ⟨rfl, hback⟩ := List.append_inj (hin.symm.trans hmoves.inbound_eq) hlength.symm
  exact ⟨t, hread, hfluent, hback.symm⟩

/-! ### Writing -/

/-- A fluent writing call moves at least one byte, if there is one to move. -/
theorem writeSome_ok_of_fluent {s t : Stream} {offered : Bytes} {n : Nat} (h : s.Fluent)
    (hne : offered ≠ []) (hwrite : writeSome offered s = .ok n t) : n ≠ 0 ∧ t.Fluent := by
  have hlen := List.length_pos_iff.mpr hne
  unfold writeSome at hwrite
  split at hwrite
  case h_1 => cases hwrite
  case h_2 limit writes hs =>
    cases hwrite
    have hgoes : (CallOutcome.moves limit).Goes := h.writes _ (hs ▸ List.mem_cons_self)
    refine ⟨?_, (h.takeOut _ _).nextWrites hs⟩
    have hlimit : limit ≠ 0 := hgoes
    show min offered.length limit ≠ 0
    omega
  case h_3 =>
    cases hwrite
    have hlimit := getD_ne_zero (n := offered.length) h.writeLimit (Nat.ne_of_gt hlen)
    refine ⟨?_, h.takeOut _ _⟩
    show min offered.length _ ≠ 0
    omega

/-- A fluent writing call that fails was interrupted. -/
theorem writeSome_error_of_fluent {s t : Stream} {offered : Bytes} {fault : Fault} (h : s.Fluent)
    (hwrite : writeSome offered s = .error fault t) : fault.kind = .interrupted ∧ t.Fluent := by
  unfold writeSome at hwrite
  split at hwrite
  case h_1 planned writes hs =>
    cases hwrite
    have hgoes : (CallOutcome.fails fault).Goes := h.writes _ (hs ▸ List.mem_cons_self)
    exact ⟨hgoes, h.nextWrites hs⟩
  case h_2 => cases hwrite
  case h_3 => cases hwrite

/-- Every byte offered is written, whatever pieces it goes out in. -/
theorem writeAll_of_fluent (offered : Bytes) (s : Stream) (h : s.Fluent) :
    ∃ t, writeAll offered s = .ok () t ∧ t.Fluent ∧ s.Moves offered [] t := by
  have hwritten : ∃ t, writeAll offered s = .ok () t ∧ t.Fluent := by
    induction offered, s using writeAll.induct with
    | case1 s =>
      refine ⟨s, ?_, h⟩
      rw [writeAll, if_pos rfl]
    | case2 offered s hne t hwrite =>
      exact absurd rfl (writeSome_ok_of_fluent h hne hwrite).1
    | case3 offered s hne n t hwrite ih =>
      rw [writeAll_of_piece hne hwrite]
      exact ih (writeSome_ok_of_fluent h hne hwrite).2
    | case4 offered s hne fault t hwrite hkind ih =>
      rw [writeAll_of_fault hne hwrite, if_pos hkind]
      exact ih (writeSome_error_of_fluent h hwrite).2
    | case5 offered s hne fault t hwrite hkind =>
      exact absurd (writeSome_error_of_fluent h hwrite).1 hkind
  obtain ⟨t, hwrite, hfluent⟩ := hwritten
  exact ⟨t, hwrite, hfluent, writeAll_moves hwrite⟩

/-! ### Round trips -/

theorem frameLength_of_fits {header : Bytes} {total : Nat} (h : Word.value header = total)
    (hle : frameHeader ≤ total) (hmax : total ≤ maxFrame) : frameLength header = .ok total := by
  unfold frameLength
  rw [h]
  dsimp only
  rw [if_neg (by omega), if_neg (by omega)]

theorem carry_of_ok {α : Type} {transfer : Transfer α} {s t : Stream} {a : α}
    (h : transfer s = .ok a t) : carry transfer s = .ok a t := by
  unfold carry
  rw [h]

/-- What a round trip does once it has the length of the response. -/
def receiveBody (header : Bytes) : EStateM ClientError Stream Bytes := do
  let total ← exchange.liftExcept (frameLength header)
  let body ← carry (readExactly (total - frameHeader))
  pure (header ++ body)

/-- What a round trip does once the request is out. -/
def receive : EStateM ClientError Stream Bytes := do
  let header ← carry (readExactly frameHeader)
  receiveBody header

/-- Over a fluent stream the request goes out, and a response is received. -/
theorem exchange_of_sent {s : Stream} (h : s.Fluent) (request : Bytes) :
    ∃ t, exchange request s = receive t ∧ t.Fluent ∧ t.inbound = s.inbound := by
  obtain ⟨t, hwrite, ht, hmoves⟩ := writeAll_of_fluent request s h
  have hflush : flush t = .ok () t := by
    unfold flush
    rw [ht.flush]
  refine ⟨t, ?_, ht, hmoves.inbound_eq.symm⟩
  unfold exchange
  rw [EStateM.bind_of_ok (carry_of_ok hwrite), EStateM.bind_of_ok (carry_of_ok hflush)]
  rfl

/-- A round trip over a fluent stream writes the request and nothing else, and takes the frame that
stands next, if the frame declares its own length and is not too long. -/
theorem exchange_of_fluent {s : Stream} (h : s.Fluent) {reply rest : Bytes} (request : Bytes)
    (hin : s.inbound = reply ++ rest) (hheader : Word.value (reply.take frameHeader) = reply.length)
    (hle : frameHeader ≤ reply.length) (hmax : reply.length ≤ maxFrame) :
    ∃ t, exchange request s = .ok reply t ∧ t.Fluent ∧ t.sent = s.sent ++ request ∧
      t.inbound = rest := by
  obtain ⟨s₁, hsent, hs₁, hin₁⟩ := exchange_of_sent h request
  have hheaderLength : (reply.take frameHeader).length = frameHeader := by
    rw [List.length_take, Nat.min_eq_left hle]
  have hbodyLength : (reply.drop frameHeader).length = reply.length - frameHeader :=
    List.length_drop
  have hparts : s₁.inbound = reply.take frameHeader ++ (reply.drop frameHeader ++ rest) := by
    rw [← List.append_assoc, List.take_append_drop, ← hin, hin₁]
  obtain ⟨s₂, hread₂, hs₂, hin₂⟩ := readExactly_of_fluent hs₁ hparts
  obtain ⟨s₃, hread₃, hs₃, hin₃⟩ := readExactly_of_fluent hs₂ hin₂
  rw [hheaderLength] at hread₂
  rw [hbodyLength] at hread₃
  have hexchange : exchange request s = .ok reply s₃ := by
    rw [hsent, receive, EStateM.bind_of_ok (carry_of_ok hread₂), receiveBody,
      frameLength_of_fits hheader hle hmax,
      EStateM.bind_of_ok (x := exchange.liftExcept (.ok reply.length)) rfl,
      EStateM.bind_of_ok (carry_of_ok hread₃)]
    show EStateM.Result.ok (reply.take frameHeader ++ reply.drop frameHeader) s₃ = _
    rw [List.take_append_drop]
  exact ⟨s₃, hexchange, hs₃, (exchange_eq_ok hexchange).1.sent_eq, hin₃⟩

end Stream

end TrafficControl
