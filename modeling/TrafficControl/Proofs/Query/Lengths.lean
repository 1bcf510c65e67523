import TrafficControl.Proofs.Protocol.LengthAgreement
import TrafficControl.Proofs.Query.ReadAnswer
import TrafficControl.Proofs.Query.Unsent
import TrafficControl.Proofs.Transport.Moves

/-!
# No batch over a stream finds a wrong length

A stream reads the length of a response first and then as many bytes as it declares, so that what it
hands on declares its own length. The check that is made when the response is decoded has nothing left
to find: whatever the queries of a batch are and whatever bytes come in, the batch does not fail for a
message that has another length than it declares (`Action.dispatch_agrees`).
-/

namespace TrafficControl

/-- The failure is not that a message has another length than it declares. -/
def ClientError.Agrees (e : ClientError) : Prop :=
  ∀ declared actual, e ≠ .framing (.lengthMismatch declared actual)

theorem FrameError.Agrees.framing {e : FrameError} (h : e.Agrees) : (ClientError.framing e).Agrees := by
  intro declared actual heq
  cases heq
  exact h declared actual rfl

/-! ### Requests -/

theorem Query.Lacks.agrees {q : Query} {cells : Cells} {e : ClientError} (h : q.Lacks cells e) :
    e.Agrees := by
  cases h <;> exact nofun

/-- What keeps a frame from being made is something missing or something too large. -/
theorem Unsent.agrees {cells : Cells} {queries : List Query} {e : ClientError}
    (h : Unsent cells queries e) : e.Agrees := by
  cases h with
  | unframed hmade h => exact (Request.encode_agrees h).framing
  | unmade hsplit hearlier h =>
    rcases Query.requests_eq_error_iff.mp h with hlacks | ⟨failure, hexcess, rfl⟩
    · exact hlacks.agrees
    · obtain ⟨k, -, rfl⟩ := Count.exists_of_firstExcess hexcess
      exact k.excess_agrees.framing

/-! ### Replies -/

theorem checkedContainers_agrees {commands : List Command} {reply : Bytes} {e : ClientError}
    (hreply : Stream.IsFrame reply) (h : checkedContainers commands reply = .error e) : e.Agrees := by
  unfold checkedContainers at h
  split at h
  · next e' hdecode =>
    cases h
    exact (Response.decode_agrees hreply.header hreply.declared hdecode).framing
  · split at h
    · cases h
      exact nofun
    · rcases checkStatuses_eq_error (Except.map_eq_error_iff.mp h) with ⟨_, _, rfl⟩ | ⟨_, _, _, rfl⟩
      · exact nofun
      · exact nofun

/-! ### Answers -/

theorem Reader.Agrees.framed {α : Type} {r : Reader α} (h : r.Agrees) :
    EStateM.FailsOnly r.framed ClientError.Agrees := by
  intro c e c' hrun
  unfold Reader.framed at hrun
  split at hrun
  · cases hrun
  · next e' c₁ hread =>
    cases hrun
    exact (h _ _ _ hread).framing

theorem Command.readPayload_agrees {α : Type} {answer : Command} {r : EStateM ClientError Cursor α}
    (hr : r.FailsOnly ClientError.Agrees) {e : ClientError} (h : answer.readPayload r = .error e) :
    e.Agrees := by
  unfold readPayload at h
  split at h
  · cases h
  · next e' c hread =>
    cases h
    exact hr _ _ _ hread

theorem ReadQuery.valueOf_agrees {q : ReadQuery} {container : Container} {e : ClientError}
    (h : q.valueOf container = .error e) : e.Agrees := by
  cases valueOf_eq_error_iff.mp h with
  | unreadableObject _ htext => exact (Reader.Agrees.text _ _ _ htext).framing
  | unreadableValue _ _ hparts =>
    exact (Reader.Agrees.readParts _ _ _ _ _ hparts).framing
  | _ => exact nofun

theorem versionOf_agrees {container : Container} {e : ClientError}
    (h : versionOf container = .error e) : e.Agrees := by
  unfold versionOf at h
  split at h
  · cases h
    exact nofun
  · split at h
    · cases h
      exact nofun
    · refine Command.readPayload_agrees ?_ h
      exact .bind Reader.Agrees.int32.framed fun _ => .bind Reader.Agrees.text.framed fun _ => .pure _

namespace Consumer

theorem next_agrees : EStateM.FailsOnly Consumer.next ClientError.Agrees := by
  intro i e i' h
  unfold next at h
  split at h
  · cases h
  · cases h
    exact nofun

theorem ofExcept_agrees {α : Type} {x : Except ClientError α} (hx : ∀ e, x = .error e → e.Agrees) :
    EStateM.FailsOnly (Consumer.ofExcept x) ClientError.Agrees := by
  cases x with
  | ok a => exact .pure a
  | error e => exact .throw (hx e rfl)

theorem updateCells_agrees (f : Cells → Cells) :
    EStateM.FailsOnly (Consumer.updateCells f) ClientError.Agrees := by
  intro i e i' h
  cases h

end Consumer

theorem takeRaw_agrees (cell : Cell) (n : Nat) :
    EStateM.FailsOnly (takeRaw cell n) ClientError.Agrees := by
  induction n with
  | zero => exact .pure _
  | succ n ih =>
    refine .bind Consumer.next_agrees fun container => .bind ?_ fun _ => ih
    intro i e i' h
    cases h

theorem Query.consume_agrees (q : Query) : EStateM.FailsOnly q.consume ClientError.Agrees := by
  cases q with
  | read q =>
    exact .bind Consumer.next_agrees fun _ =>
      .bind (Consumer.ofExcept_agrees fun e h => q.valueOf_agrees h) fun _ =>
        Consumer.updateCells_agrees _
  | change q =>
    refine .bind Consumer.next_agrees fun _ =>
      .bind (Consumer.ofExcept_agrees fun e h => ?_) fun _ => Consumer.updateCells_agrees _
    unfold Status.accept at h
    split at h
    · cases h
    · cases h
      exact nofun
  | step cell =>
    refine .bind Consumer.next_agrees fun container => ?_
    split
    · exact Consumer.updateCells_agrees _
    · exact .throw nofun
  | version cell =>
    exact .bind Consumer.next_agrees fun _ =>
      .bind (Consumer.ofExcept_agrees fun e h => versionOf_agrees h) fun _ =>
        Consumer.updateCells_agrees _
  | close => exact .map _ Consumer.next_agrees
  | raw cell commands takes => exact takeRaw_agrees cell takes

theorem consumeAll_agrees (batch : List (Query × Nat)) :
    EStateM.FailsOnly (consumeAll batch) ClientError.Agrees := by
  induction batch with
  | nil => exact .pure _
  | cons entry batch ih =>
    refine .bind (.bind .get fun before => .bind entry.1.consume_agrees fun _ =>
      .bind .get fun after => ?_) fun _ => ih
    dsimp only
    split
    · exact .throw nofun
    · exact .pure _

/-! ### Batches -/

theorem Stream.frameLength_agrees {header : Bytes} {e : ClientError}
    (h : frameLength header = .error e) : e.Agrees := by
  unfold frameLength at h
  dsimp only at h
  split at h
  · cases h
    exact nofun
  · split at h
    · cases h
      exact nofun
    · cases h

namespace Action

variable {queries : List Query} {c c' : Client Stream} {e : ClientError}

theorem settle_agrees {requests : List (List Command)} {reply : Bytes} (hreply : Stream.IsFrame reply)
    (h : settle queries requests reply c = .error e c') : e.Agrees := by
  rcases EStateM.bind_eq_error_iff.mp h with hcheck | ⟨containers, c₁, -, h⟩
  · rcases hchecked : checkedContainers requests.flatten reply with e' | containers
    · rw [hchecked] at hcheck
      cases hcheck
      exact checkedContainers_agrees hreply hchecked
    · rw [hchecked] at hcheck
      cases hcheck
  · unfold consume at h
    dsimp only at h
    split at h
    · cases h
    · next e' i hrun =>
      cases h
      exact consumeAll_agrees _ _ _ _ hrun

/-- A batch over a stream never fails for a message that has another length than it declares. -/
theorem dispatch_agrees (h : Action.dispatch queries c = .error e c') : e.Agrees := by
  rcases sends_or_not c.memory.cells queries with
    ⟨requests, frame, hsends⟩ | ⟨requests, hmade, hempty⟩ | ⟨e', hunsent⟩
  · rcases htransact : Link.transact frame c.link with ⟨reply, link⟩ | ⟨e', link⟩
    · rw [dispatch_of_answered hsends htransact] at h
      exact settle_agrees (Stream.exchange_eq_ok htransact).2 h
    · rw [dispatch_of_lost hsends htransact] at h
      cases h
      rcases Stream.exchange_eq_error htransact with ⟨fault, rfl⟩ | ⟨header, hlength⟩
      · exact nofun
      · exact Stream.frameLength_agrees hlength
  · rw [dispatch_of_silent hmade hempty] at h
    cases h
  · rw [dispatch_of_unsent hunsent] at h
    cases h
    exact hunsent.agrees

end Action

end TrafficControl
