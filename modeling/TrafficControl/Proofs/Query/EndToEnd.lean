import TrafficControl.Proofs.Query.Answering
import TrafficControl.Proofs.Transport.Delivery

/-!
# A batch from end to end

A batch of queries of the usual kinds meets a simulator that takes the frame apart, answers each
command as it should, and frames the answers. Nothing in the answers says whose they are; the order
alone does. Still every query gets the answer to its own command, whatever the mixture, the length
and the repetitions of the batch (`dispatch_end_to_end`).
-/

namespace TrafficControl

/-- At the other end of a stream stands a simulator that takes a frame apart into commands, has
`serve` answer them, and frames the answers. No call on the stream fails for good, and `rest` stands
behind the reply. -/
structure Stream.Serves (s : Stream) (serve : List Command → List Container) (frame rest : Bytes) :
    Prop where
  fluent : s.Fluent
  replies : ∀ commands, Request.decode frame = .ok commands →
    ∃ reply, Response.encode (serve commands) = .ok reply ∧ reply.length ≤ maxFrame ∧
      s.inbound = reply ++ rest

/-- A stream at whose other end a simulator stands sends a frame and gives the simulator's reply. -/
theorem Stream.Serves.exchange {s : Stream} {serve : List Command → List Container}
    {frame rest : Bytes} (h : s.Serves serve frame rest) {commands : List Command}
    (hdecode : Request.decode frame = .ok commands) :
    ∃ reply t, Response.encode (serve commands) = .ok reply ∧
      Link.transact frame s = .ok reply t ∧ t.Fluent ∧ t.sent = s.sent ++ frame ∧
      t.inbound = rest := by
  obtain ⟨reply, hreply, hmax, hin⟩ := h.replies commands hdecode
  obtain ⟨hheader, hle⟩ := Frame.value_take_of_close hreply
  obtain ⟨t, hexchange, ht⟩ := exchange_of_fluent h.fluent frame hin hheader hle hmax
  exact ⟨reply, t, hreply, hexchange, ht⟩

namespace Action

variable {σ : Type} [Link σ] {c : Client σ} {queries : List Query} {requests : List (List Command)}
  {frame reply : Bytes} {containers : List Container} {effects : List Effect} {link : σ}

/-- A batch whose link delivers good answers succeeds with one round trip and remembers what the
answers say. -/
theorem dispatch_of_reply (hne : queries ≠ []) (hstd : ∀ q ∈ queries, q.Standard)
    (hrequests : batchRequests c.memory.cells queries = .ok requests)
    (hframe : Request.encode requests.flatten = .ok frame)
    (hanswers : AnswersAll queries requests.flatten containers effects)
    (hreply : Response.encode containers = .ok reply)
    (htransact : Link.transact frame c.link = .ok reply link) :
    dispatch queries c =
      .ok () ⟨link, c.roundTrips + 1, c.memory.mapCells (Effect.applyAll effects)⟩ := by
  obtain ⟨-, hasks⟩ := flatten_of_batchRequests hstd hrequests
  have hlib : ∀ q ∈ queries, q.BuiltIn := fun q hq => (hstd q hq).builtIn
  have hnonempty : requests.flatten ≠ [] := by
    rw [← List.length_pos_iff, ← hasks.length_eq, List.length_pos_iff]
    exact hne
  have hsends : Sends c.memory.cells queries requests frame :=
    ⟨batchRequests_eq_ok hrequests, hnonempty, hframe⟩
  have hacknowledged : Acknowledged requests.flatten reply containers :=
    ⟨Response.decode_encode hreply (shaped_of_answers hanswers hstd hasks),
      acknowledges_of_answers hanswers⟩
  have htake := takeAll_of_takes (takes_of_answers hanswers hasks) hlib [] 0 c.memory.cells
  rw [List.append_nil] at htake
  rw [dispatch_of_acknowledged hlib hsends htransact hacknowledged, htake]
  rfl

end Action

/-- A batch of queries of the usual kinds, whose requests encode, meets a simulator that answers
every command as it should. Then the simulator gets exactly the commands of the queries, in order,
and each of them says what its query asks; the batch writes one frame and takes one reply, succeeds
with one round trip more, and remembers what the answers say, in order; and what an answer says holds
at the end, unless a later answer of the batch is about the same. -/
theorem dispatch_end_to_end {c : Client Stream} {queries : List Query}
    {requests : List (List Command)} {frame rest : Bytes} {serve : List Command → List Container}
    {effects : List Effect} (hne : queries ≠ []) (hstd : ∀ q ∈ queries, q.Standard)
    (hrequests : batchRequests c.memory.cells queries = .ok requests)
    (hframe : Request.encode requests.flatten = .ok frame)
    (hstream : c.link.Serves serve frame rest)
    (hserve : ∀ commands, Request.decode frame = .ok commands →
      AnswersAll queries commands (serve commands) effects) :
    Request.decode frame = .ok requests.flatten ∧
    List.Forall₂ (Query.Asks c.memory.cells) queries requests.flatten ∧
    (∃ link, Action.dispatch queries c =
        .ok () ⟨link, c.roundTrips + 1, c.memory.mapCells (Effect.applyAll effects)⟩ ∧
      link.sent = c.link.sent ++ frame ∧ link.inbound = rest) ∧
    ∀ earlier e later, effects = earlier ++ e :: later → (∀ e' ∈ later, ¬ e'.Overrides e) →
      e.HoldsIn (Effect.applyAll effects c.memory.cells) := by
  have hdecode := Request.decode_encode hframe
  obtain ⟨reply, link, hreply, htransact, -, hsent, hin⟩ := hstream.exchange hdecode
  have hdispatch := Action.dispatch_of_reply hne hstd hrequests hframe (hserve _ hdecode) hreply
    htransact
  refine ⟨hdecode, (flatten_of_batchRequests hstd hrequests).2, ⟨link, hdispatch, hsent, hin⟩, ?_⟩
  intro earlier e later hsplit hother
  exact Effect.holds_at_end c.memory.cells hsplit hother

/-! A batch in which a change puts a read out of date that stands both before and after it. -/

namespace Mixed

def speed : ReadQuery where
  cell := ⟨0, 0⟩
  command := Code.getVehicle
  object := "v0"
  code := Code.speed
  type := .double

def maxSpeed : ChangeQuery where
  cell := ⟨0, 1⟩
  command := Code.setVehicle
  object := "v0"
  code := Code.maxSpeed
  outdates := [⟨0, 0⟩]

def queries : List Query := [.read speed, .change maxSpeed, .read speed, .step ⟨1, 0⟩, .close]

/-- What the simulator makes of the commands it gets. -/
def serve (commands : List Command) : List Container :=
  commands.zipWith (Container.accepting · · "")
    [.single (speed.answer (.double ⟨1⟩)), .bare, .single (speed.answer (.double ⟨2⟩)), .several [],
      .bare]

def effects : List Effect :=
  [.kept ⟨0, 0⟩ (.double ⟨1⟩), .outdated [⟨0, 0⟩], .kept ⟨0, 0⟩ (.double ⟨2⟩), .stepped ⟨1, 0⟩ [],
    .nothing]

def cells : Cells := ({} : Cells).setChange ⟨0, 1⟩ (.double ⟨3⟩)

def requests : List (List Command) := (batchRequests cells queries).toOption.getD []

def frame : Bytes := (Request.encode requests.flatten).toOption.getD []

def client : Client Stream where
  link := .awaiting [serve requests.flatten]
  memory := { cells }

theorem requests_eq : batchRequests client.memory.cells queries = .ok requests := by
  rfl

theorem frame_eq : Request.encode requests.flatten = .ok frame := by
  rfl

theorem answers {commands : List Command} (hasks : List.Forall₂ (Query.Asks cells) queries commands) :
    AnswersAll queries commands (serve commands) effects := by
  obtain ⟨c₁, cs₁, h₁, hs₁, rfl⟩ := List.forall₂_cons_left_iff.mp hasks
  obtain ⟨c₂, cs₂, -, hs₂, rfl⟩ := List.forall₂_cons_left_iff.mp hs₁
  obtain ⟨c₃, cs₃, h₃, hs₃, rfl⟩ := List.forall₂_cons_left_iff.mp hs₂
  obtain ⟨c₄, cs₄, -, hs₄, rfl⟩ := List.forall₂_cons_left_iff.mp hs₃
  obtain ⟨c₅, cs₅, -, hs₅, rfl⟩ := List.forall₂_cons_left_iff.mp hs₄
  obtain rfl := List.forall₂_nil_left_iff.mp hs₅
  exact .cons (.of_asks h₁ rfl rfl "") (.cons .change (.cons (.of_asks h₃ rfl rfl "")
    (.cons .step (.cons .close .nil))))

theorem serves : client.link.Serves serve frame [] := by
  refine ⟨.awaiting _, ?_⟩
  intro commands h
  rw [Request.decode_encode frame_eq] at h
  cases h
  exact ⟨(Response.encode (serve requests.flatten)).toOption.getD [], rfl, by decide, rfl⟩

end Mixed

/-- The read remembers the answer that came after the change. -/
theorem dispatch_mixed :
    ∃ link, Action.dispatch Mixed.queries Mixed.client =
        .ok () ⟨link, 1, Mixed.client.memory.mapCells (Effect.applyAll Mixed.effects)⟩ ∧
      link.sent = Mixed.frame ∧ link.inbound = [] ∧
      (Effect.applyAll Mixed.effects Mixed.cells).cached[Mixed.speed.cell]? =
        some (.double ⟨2⟩) := by
  have hstd : ∀ q ∈ Mixed.queries, q.Standard := by decide
  have hserve : ∀ commands, Request.decode Mixed.frame = .ok commands →
      AnswersAll Mixed.queries commands (Mixed.serve commands) Mixed.effects := by
    intro commands h
    rw [Request.decode_encode Mixed.frame_eq] at h
    cases h
    exact Mixed.answers (flatten_of_batchRequests hstd Mixed.requests_eq).2
  obtain ⟨-, -, ⟨link, hdispatch, hsent, hin⟩, hholds⟩ := dispatch_end_to_end (by decide) hstd
    Mixed.requests_eq Mixed.frame_eq Mixed.serves hserve
  exact ⟨link, hdispatch, hsent, hin, hholds [.kept ⟨0, 0⟩ (.double ⟨1⟩), .outdated [⟨0, 0⟩]]
    (.kept ⟨0, 0⟩ (.double ⟨2⟩)) [.stepped ⟨1, 0⟩ [], .nothing] rfl (by simp [Effect.Overrides])⟩

end TrafficControl
