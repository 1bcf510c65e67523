import TrafficControl.Proofs.Query.Ending

/-!
# A dialogue of batches over one stream

A dialogue is any number of batches that a client runs one after another over a stream. Each batch
either does not reach the stream or makes one round trip. As long as no batch reports a failure after
which the connection is not to be trusted, the bytes sent are the frames of the batches that reached
the stream, the bytes read are as many whole frames, and each of these batches was answered from the
frame at its own place (`dialogue_aligned`), whatever the simulator sends and however the stream cuts
it into pieces.
-/

namespace TrafficControl

/-! ### The frame of a batch, if it has one -/

/-- The frame that a batch sends, if it sends one. -/
def batchFrame? (cells : Cells) (queries : List Query) : Option Bytes :=
  match batchRequests cells queries with
  | .error _ => none
  | .ok requests =>
    if requests.flatten = [] then none else (Request.encode requests.flatten).toOption

theorem batchFrame?_of_sends {cells : Cells} {queries : List Query} {requests : List (List Command)}
    {frame : Bytes} (h : Sends cells queries requests frame) :
    batchFrame? cells queries = some frame := by
  unfold batchFrame?
  rw [batchRequests_of_makes h.made]
  dsimp only
  rw [if_neg h.nonempty, h.framed]
  rfl

theorem batchFrame?_of_silent {cells : Cells} {queries : List Query} {requests : List (List Command)}
    (h : Makes cells queries requests) (hempty : requests.flatten = []) :
    batchFrame? cells queries = none := by
  unfold batchFrame?
  rw [batchRequests_of_makes h]
  exact if_pos hempty

theorem batchFrame?_of_unsent {cells : Cells} {queries : List Query} {e : ClientError}
    (h : Unsent cells queries e) : batchFrame? cells queries = none := by
  unfold batchFrame?
  cases h with
  | unmade hsplit hearlier h => rw [hsplit, batchRequests_of_unmade hearlier h]
  | @unframed requests e hmade h =>
    rw [batchRequests_of_makes hmade]
    dsimp only
    rw [h]
    exact ite_self none

/-! ### Dialogues -/

/-- A batch that was run, and the client that ran it. -/
structure Call where
  queries : List Query
  client : Client Stream

namespace Call

/-- The frame that a call sends, if it reaches the stream. -/
def frame? (call : Call) : Option Bytes := batchFrame? call.client.memory.cells call.queries

/-- The call does not end with a failure after which the connection is not to be trusted. -/
def Safe (call : Call) : Prop :=
  ∀ e c, Action.dispatch call.queries call.client = .error e c → e.isFatal = false

/-- What comes of a call is what becomes of a reply, once the round trip was counted. -/
def AnsweredFrom (call : Call) (reply : Bytes) : Prop :=
  ∃ requests link, Makes call.client.memory.cells call.queries requests ∧
    Action.dispatch call.queries call.client =
      Action.settle call.queries requests reply
        { call.client with link, roundTrips := call.client.roundTrips + 1 }

theorem safe_of_ok {call : Call} {c : Client Stream}
    (h : Action.dispatch call.queries call.client = .ok () c) : call.Safe := by
  intro e c' h'
  rw [h] at h'
  cases h'

theorem safe_of_error {call : Call} {e : ClientError} {c : Client Stream}
    (h : Action.dispatch call.queries call.client = .error e c) (he : e.isFatal = false) :
    call.Safe := by
  intro e' c' h'
  rw [h] at h'
  cases h'
  exact he

end Call

/-- `Dialogue start calls c`: from the client `start` on, the batches of `calls` were run one after
another, and in between anything may have been remembered or forgotten; `c` is the client at the
end. -/
inductive Dialogue (start : Client Stream) : List Call → Client Stream → Prop
  | start : Dialogue start [] start
  | elsewhere {calls : List Call} {c : Client Stream} (memory : Memory)
      (h : Dialogue start calls c) : Dialogue start calls { c with memory }
  | call {calls : List Call} {c : Client Stream} (queries : List Query)
      (h : Dialogue start calls c) :
      Dialogue start (calls ++ [⟨queries, c⟩]) ((Action.dispatch queries).after c)

/-- Between two clients whole frames were sent and whole frames were read, as many as were sent. -/
structure Aligned (start c : Client Stream) (frames replies : List Bytes) : Prop where
  moves : start.link.Moves frames.flatten replies.flatten c.link
  whole : ∀ reply ∈ replies, Stream.IsFrame reply
  length_eq : frames.length = replies.length

/-! ### One call -/

/-- Handing a reply out touches neither the stream nor the count of round trips. -/
theorem Action.settle_after (queries : List Query) (requests : List (List Command)) (reply : Bytes)
    (c : Client Stream) : ((settle queries requests reply).after c).link = c.link ∧
      ((settle queries requests reply).after c).roundTrips = c.roundTrips := by
  unfold Action.after settle
  rcases checkedContainers requests.flatten reply with e | containers
  · exact ⟨rfl, rfl⟩
  · rw [EStateM.bind_of_ok (x := ofExcept (.ok containers)) rfl, consume]
    rcases consumeAll (queries.zip (requests.map List.length))
      { pending := containers, cells := c.memory.cells } with ⟨_, i⟩ | ⟨e, i⟩ <;> exact ⟨rfl, rfl⟩

/-- A call that is safe does not reach the stream, or makes one round trip. -/
theorem Call.round_trip {call : Call} (hsafe : call.Safe) :
    (call.frame? = none ∧ ((Action.dispatch call.queries).after call.client) = call.client) ∨
    ∃ frame reply, call.frame? = some frame ∧ Stream.IsFrame reply ∧ call.AnsweredFrom reply ∧
      call.client.link.Moves frame reply ((Action.dispatch call.queries).after call.client).link ∧
      ((Action.dispatch call.queries).after call.client).roundTrips = call.client.roundTrips + 1 := by
  obtain ⟨queries, c⟩ := call
  rcases sends_or_not c.memory.cells queries with
    ⟨requests, frame, hsends⟩ | ⟨requests, hmade, hempty⟩ | ⟨e, hunsent⟩
  · rcases htransact : Link.transact frame c.link with ⟨reply, link⟩ | ⟨e, link⟩
    · obtain ⟨hmoves, hframe⟩ := Stream.exchange_eq_ok htransact
      have hdispatch := Action.dispatch_of_answered hsends htransact
      have hafter : (Action.dispatch queries).after c = (Action.settle queries requests reply).after
          { c with link, roundTrips := c.roundTrips + 1 } := by
        unfold Action.after
        rw [hdispatch]
      obtain ⟨hlink, htrips⟩ := Action.settle_after queries requests reply
        { c with link, roundTrips := c.roundTrips + 1 }
      refine Or.inr ⟨frame, reply, batchFrame?_of_sends hsends, hframe,
        ⟨requests, link, hsends.made, hdispatch⟩, ?_, ?_⟩
      · rw [hafter, hlink]
        exact hmoves
      · rw [hafter, htrips]
    · have hdispatch := Action.dispatch_of_lost hsends htransact
      have hfatal := Stream.isFatal_of_exchange htransact
      rw [hsafe _ _ hdispatch] at hfatal
      cases hfatal
  · exact Or.inl ⟨batchFrame?_of_silent hmade hempty,
      Action.after_of_ok (Action.dispatch_of_silent hmade hempty)⟩
  · exact Or.inl ⟨batchFrame?_of_unsent hunsent,
      Action.after_of_error (Action.dispatch_of_unsent hunsent)⟩

/-! ### A whole dialogue -/

variable {start c : Client Stream} {calls : List Call}

/-- The calls of a dialogue that have reached the stream have sent their frames, in order, and nothing
else. One whole frame was read for each of them, from which it was answered, and nothing else. As many
round trips were counted. -/
structure Exchanged (start : Client Stream) (calls : List Call) (c : Client Stream)
    (replies : List Bytes) : Prop where
  aligned : Aligned start c (calls.filterMap Call.frame?) replies
  answered : List.Forall₂ Call.AnsweredFrom (calls.filter fun call => call.frame?.isSome) replies
  counted : c.roundTrips = start.roundTrips + replies.length

theorem Dialogue.exists_exchanged (h : Dialogue start calls c) (hsafe : ∀ call ∈ calls, call.Safe) :
    ∃ replies, Exchanged start calls c replies := by
  induction h with
  | start =>
    exact ⟨[], ⟨.nothing _, fun _ h => absurd h List.not_mem_nil, rfl⟩, .nil, rfl⟩
  | elsewhere memory _ ih =>
    obtain ⟨replies, haligned, hanswered, hcounted⟩ := ih hsafe
    exact ⟨replies, ⟨⟨haligned.moves.sent_eq, haligned.moves.inbound_eq⟩, haligned.whole,
      haligned.length_eq⟩, hanswered, hcounted⟩
  | @call calls c queries _ ih =>
    obtain ⟨hearlier, hlast⟩ := List.forall_mem_append.mp hsafe
    obtain ⟨replies, haligned, hanswered, hcounted⟩ := ih hearlier
    rcases Call.round_trip (hlast _ (List.mem_singleton_self _)) with
      ⟨hnone, hafter⟩ | ⟨frame, reply, hsome, hframe, hfrom, hmoves, htrips⟩
    · refine ⟨replies, ?_, ?_, ?_⟩
      · rw [hafter]
        simpa [hnone] using haligned
      · simpa [hnone] using hanswered
      · rw [hafter]
        exact hcounted
    · refine ⟨replies ++ [reply], ⟨?_, ?_, ?_⟩, ?_, ?_⟩
      · have hall := haligned.moves.trans hmoves
        simpa [hsome] using hall
      · intro r hr
        rcases List.mem_append.mp hr with hr | hr
        · exact haligned.whole r hr
        · rw [List.mem_singleton.mp hr]
          exact hframe
      · simpa [hsome] using haligned.length_eq
      · simpa [hsome] using List.rel_append hanswered (.cons hfrom .nil)
      · rw [htrips, hcounted, List.length_append]
        rfl

/-- In a dialogue none of whose calls has failed in a way that is fatal for the connection, each call
that reached the stream has sent its frame and was answered from the frame at its own place, and no
other byte was moved. So if a further call fails and leaves the stream in any other state, its failure
is fatal. -/
theorem dialogue_aligned (h : Dialogue start calls c) (hsafe : ∀ call ∈ calls, call.Safe) :
    (∃ replies, Exchanged start calls c replies) ∧
    ∀ (queries : List Query) (e : ClientError) (c' : Client Stream),
      Action.dispatch queries c = .error e c' →
      (∀ replies, ¬ Aligned start c' ((calls ++ [Call.mk queries c]).filterMap Call.frame?) replies) →
      e.isFatal = true := by
  refine ⟨h.exists_exchanged hsafe, ?_⟩
  intro queries e c' hdispatch hastray
  by_contra hfatal
  have hlast : Call.Safe ⟨queries, c⟩ :=
    Call.safe_of_error hdispatch (Bool.eq_false_iff.mpr hfatal)
  have hall : ∀ call ∈ calls ++ [Call.mk queries c], call.Safe :=
    List.forall_mem_append.mpr ⟨hsafe, List.forall_mem_singleton.mpr hlast⟩
  obtain ⟨replies, hexchanged⟩ := (h.call queries).exists_exchanged hall
  rw [Action.after_of_error hdispatch] at hexchanged
  exact hastray replies hexchanged.aligned

open Misdirected in
/-- A batch that was answered about another vehicle is followed by one that is answered as it should
be. -/
theorem dialogue_after_mismatch :
    ∃ start calls c, Dialogue start calls c ∧ (∀ call ∈ calls, call.Safe) ∧
      calls.map Call.queries = [batch, [.read first]] ∧ start.roundTrips = 0 ∧ c.roundTrips = 2 ∧
      c.link.inbound = [] ∧ ∃ replies, Exchanged start calls c replies := by
  have hplay : (Action.dispatch batch).failsWith (fun e c => !e.isFatal &&
      (Action.dispatch [.read first]).succeedsWith (fun _ c =>
        c.roundTrips == 2 && c.link.inbound.isEmpty) c)
      ({ link := .awaiting [containers, containers.take 1] } : Client Stream) = true := by
    decide +kernel
  obtain ⟨e, c₁, hfirst, hplay⟩ := Action.of_failsWith hplay
  obtain ⟨hfatal, hplay⟩ := Bool.and_eq_true_iff.mp hplay
  obtain ⟨_, c₂, hsecond, htest⟩ := Action.of_succeedsWith hplay
  simp only [Bool.and_eq_true, beq_iff_eq, List.isEmpty_iff] at htest
  obtain ⟨htrips, hinbound⟩ := htest
  have hnone : Dialogue { link := .awaiting [containers, containers.take 1] } [] _ := .start
  have hone := hnone.call batch
  rw [Action.after_of_error hfirst] at hone
  have htwo := hone.call [.read first]
  rw [Action.after_of_ok hsecond] at htwo
  have hsafe : ∀ call ∈ [Call.mk batch { link := .awaiting [containers, containers.take 1] }] ++
      [Call.mk [.read first] c₁], call.Safe := by
    refine List.forall_mem_append.mpr ⟨List.forall_mem_singleton.mpr ?_,
      List.forall_mem_singleton.mpr (Call.safe_of_ok hsecond)⟩
    exact Call.safe_of_error hfirst (by simpa using hfatal)
  exact ⟨_, _, c₂, htwo, hsafe, rfl, rfl, htrips, hinbound, (dialogue_aligned htwo hsafe).1⟩

end TrafficControl
