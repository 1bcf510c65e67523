import TrafficControl.Proofs.Query.Asking
import TrafficControl.Proofs.Query.Taking

/-!
# The stages of a batch

A batch makes its commands, frames them, makes a round trip, checks the reply and hands it out. Each
stage either ends the batch or leads to the next one:

* `Unsent`, `Sends`: the frame of a batch, or what keeps it from being made.
* `DefectiveReply`, `checkedContainers_eq_ok_iff`: a reply that may be handed out, or what is wrong
  with it.
* `dispatch_of_unsent`, `dispatch_of_lost`, `dispatch_of_reply`: how the batch ends after each stage;
  what becomes of a reply is `Action.settle`.
-/

namespace TrafficControl

/-! ### The frame of a batch -/

/-- The commands of each query of a batch. -/
def Makes (cells : Cells) (queries : List Query) (requests : List (List Command)) : Prop :=
  List.Forall₂ (fun q commands => q.requests cells = .ok commands) queries requests

/-- A batch that has something to send, and the frame that it sends. -/
structure Sends (cells : Cells) (queries : List Query) (requests : List (List Command))
    (frame : Bytes) : Prop where
  made : Makes cells queries requests
  nonempty : requests.flatten ≠ []
  framed : Request.encode requests.flatten = .ok frame

/-- What keeps the frame of a batch from being made. -/
inductive Unsent (cells : Cells) (queries : List Query) : ClientError → Prop
  /-- A query cannot make its commands; it is the first one that cannot. -/
  | unmade {earlier later : List Query} {q : Query} {requests : List (List Command)}
      {e : ClientError} (hsplit : queries = earlier ++ q :: later)
      (hearlier : Makes cells earlier requests) (h : q.requests cells = .error e) :
      Unsent cells queries e
  /-- The commands do not fit a frame. -/
  | unframed {requests : List (List Command)} {e : FrameError}
      (hmade : Makes cells queries requests) (h : Request.encode requests.flatten = .error e) :
      Unsent cells queries (.framing e)

theorem batchRequests_cons (cells : Cells) (q : Query) (queries : List Query) :
    batchRequests cells (q :: queries) = (do
      let commands ← q.requests cells
      let requests ← batchRequests cells queries
      pure (commands :: requests)) := List.mapM_cons

theorem batchRequests_of_makes {cells : Cells} {queries : List Query}
    {requests : List (List Command)} (h : Makes cells queries requests) :
    batchRequests cells queries = .ok requests := by
  induction h with
  | nil => rfl
  | cons hq _ ih =>
    rw [batchRequests_cons, hq, ih]
    rfl

theorem batchRequests_of_unmade {cells : Cells} {earlier : List Query} {q : Query}
    {requests : List (List Command)} {e : ClientError} (hearlier : Makes cells earlier requests)
    (h : q.requests cells = .error e) (later : List Query) :
    batchRequests cells (earlier ++ q :: later) = .error e := by
  induction hearlier with
  | nil =>
    rw [List.nil_append, batchRequests_cons, h]
    rfl
  | cons hq _ ih =>
    rw [List.cons_append, batchRequests_cons, hq, ih]
    rfl

/-- The commands of all queries are made, or there is a first query whose commands are not. -/
theorem makes_or_unmade (cells : Cells) (queries : List Query) :
    (∃ requests, Makes cells queries requests) ∨
    ∃ earlier q later requests e, queries = earlier ++ q :: later ∧ Makes cells earlier requests ∧
      q.requests cells = .error e := by
  induction queries with
  | nil => exact Or.inl ⟨[], .nil⟩
  | cons q queries ih =>
    rcases hq : q.requests cells with e | commands
    · exact Or.inr ⟨[], q, queries, [], e, rfl, .nil, hq⟩
    · rcases ih with ⟨requests, hmakes⟩ | ⟨earlier, q', later, requests, e, rfl, hearlier, hfail⟩
      · exact Or.inl ⟨commands :: requests, .cons hq hmakes⟩
      · exact Or.inr ⟨q :: earlier, q', later, commands :: requests, e, rfl, .cons hq hearlier, hfail⟩

/-- A batch has a frame to send, has nothing to send, or cannot make its frame. -/
theorem sends_or_not (cells : Cells) (queries : List Query) :
    (∃ requests frame, Sends cells queries requests frame) ∨
    (∃ requests, Makes cells queries requests ∧ requests.flatten = []) ∨
    ∃ e, Unsent cells queries e := by
  rcases makes_or_unmade cells queries with
    ⟨requests, hmakes⟩ | ⟨earlier, q, later, requests, e, hsplit, hearlier, h⟩
  · by_cases hempty : requests.flatten = []
    · exact Or.inr (Or.inl ⟨requests, hmakes, hempty⟩)
    · rcases hframe : Request.encode requests.flatten with e | frame
      · exact Or.inr (Or.inr ⟨_, .unframed hmakes hframe⟩)
      · exact Or.inl ⟨requests, frame, hmakes, hempty, hframe⟩
  · exact Or.inr (Or.inr ⟨e, .unmade hsplit hearlier h⟩)

/-! ### Built-in queries -/

theorem Query.Standard.builtIn {q : Query} (h : q.Standard) : q.BuiltIn := by
  cases q with
  | raw => exact h.elim
  | _ => trivial

theorem Query.requests_of_builtIn {q : Query} {cells : Cells} {commands : List Command}
    (hq : q.BuiltIn) (h : q.requests cells = .ok commands) : ∃ command, commands = [command] := by
  cases q with
  | read | change =>
    obtain ⟨command, -, rfl⟩ := Except.map_eq_ok_iff.mp h
    exact ⟨command, rfl⟩
  | step | version | close =>
    cases h
    exact ⟨_, rfl⟩
  | raw => exact hq.elim

/-- Built-in queries send one command each. -/
theorem Makes.single {cells : Cells} {queries : List Query} {requests : List (List Command)}
    (h : Makes cells queries requests) (hq : ∀ q ∈ queries, q.BuiltIn) :
    requests = requests.flatten.map ([·]) ∧ queries.length = requests.flatten.length := by
  induction h with
  | nil => exact ⟨rfl, rfl⟩
  | cons h _ ih =>
    obtain ⟨hq, hqueries⟩ := List.forall_mem_cons.mp hq
    obtain ⟨command, rfl⟩ := Query.requests_of_builtIn hq h
    obtain ⟨hsingle, hlen⟩ := ih hqueries
    constructor
    · rw [List.flatten_cons, List.singleton_append, List.map_cons, ← hsingle]
    · rw [List.flatten_cons, List.singleton_append, List.length_cons, List.length_cons, hlen]

/-- Built-in queries and their commands, one by one. -/
theorem Makes.forall₂_flatten {cells : Cells} {queries : List Query} {requests : List (List Command)}
    (h : Makes cells queries requests) (hq : ∀ q ∈ queries, q.BuiltIn) :
    List.Forall₂ (fun q command => q.requests cells = .ok [command]) queries requests.flatten := by
  induction h with
  | nil => exact .nil
  | cons h _ ih =>
    obtain ⟨hq, hqueries⟩ := List.forall_mem_cons.mp hq
    obtain ⟨command, rfl⟩ := Query.requests_of_builtIn hq h
    exact .cons h (ih hqueries)

/-- At the place of a built-in query stands the command that it has sent. -/
theorem Makes.command_at {cells : Cells} {queries : List Query} {requests : List (List Command)}
    (h : Makes cells queries requests) (hlib : ∀ q ∈ queries, q.BuiltIn) {place : Nat} {q : Query}
    (hq : queries[place]? = some q) :
    ∃ command, requests.flatten[place]? = some command ∧ q.requests cells = .ok [command] := by
  induction h generalizing place with
  | nil => cases hq
  | cons hfirst _ ih =>
    obtain ⟨hbuiltIn, hqueries⟩ := List.forall_mem_cons.mp hlib
    obtain ⟨command, rfl⟩ := Query.requests_of_builtIn hbuiltIn hfirst
    cases place with
    | zero =>
      cases hq
      exact ⟨command, rfl, hfirst⟩
    | succ place => exact ih hqueries hq

/-! ### The reply -/

/-- A container answers a command, and with success. -/
def Container.Acknowledges (container : Container) (command : Command) : Prop :=
  container.status.command = command.id ∧ container.status.isOk = true

/-- A reply holds one container for each command, at the place of the command, and each of them
acknowledges its own. -/
def Acknowledged (commands : List Command) (reply : Bytes) (containers : List Container) : Prop :=
  Response.decode reply = .ok containers ∧ List.Forall₂ Container.Acknowledges containers commands

/-- What keeps a reply from being handed out. -/
inductive DefectiveReply (commands : List Command) (reply : Bytes) : Prop
  | unreadable {e : FrameError} (h : Response.decode reply = .error e)
  | miscounted {containers : List Container} (h : Response.decode reply = .ok containers)
      (hcount : containers.length ≠ commands.length)
  /-- Some container is about another command than the one at its place. -/
  | misattributed {containers : List Container} {container : Container} {command : Command}
      (h : Response.decode reply = .ok containers)
      (hplace : (container, command) ∈ containers.zip commands)
      (hcommand : container.status.command ≠ command.id)
  /-- Some container reports a refusal. -/
  | refused {containers : List Container} {container : Container} {command : Command}
      (h : Response.decode reply = .ok containers)
      (hplace : (container, command) ∈ containers.zip commands)
      (hstatus : container.status.isOk = false)

theorem Container.answers_eq_ok_iff {container : Container} {command : Command} :
    container.answers command = .ok () ↔ container.Acknowledges command := by
  unfold Container.answers Container.Acknowledges Status.accept
  by_cases hcommand : container.status.command = command.id
  · by_cases hok : container.status.isOk = true <;> simp [hcommand, hok]
  · simp [hcommand]

theorem Container.answers_eq_error {container : Container} {command : Command} {e : ClientError}
    (h : container.answers command = .error e) :
    (∃ expected actual, e = .unexpectedCommand expected actual) ∨
      ∃ command result description, e = .refused command result description := by
  unfold Container.answers Status.accept at h
  split at h
  · cases h
    exact Or.inl ⟨_, _, rfl⟩
  · split at h
    · cases h
    · cases h
      exact Or.inr ⟨_, _, _, rfl⟩

/-- Looking at the statuses finds an answer to another command or a refusal, and nothing else. -/
theorem checkStatuses_eq_error {commands : List Command} {containers : List Container}
    {e : ClientError} (h : checkStatuses commands containers = .error e) :
    (∃ expected actual, e = .unexpectedCommand expected actual) ∨
      ∃ command result description, e = .refused command result description := by
  induction commands generalizing containers with
  | nil =>
    rw [checkStatuses] at h
    · cases h
    · simp
  | cons command commands ih =>
    cases containers with
    | nil =>
      rw [checkStatuses] at h
      · cases h
      · simp
    | cons container containers =>
      rw [checkStatuses] at h
      rcases hfirst : container.answers command with e' | u
      · rw [hfirst] at h
        cases h
        exact Container.answers_eq_error hfirst
      · rw [hfirst] at h
        exact ih h

theorem checkStatuses_eq_ok_iff {commands : List Command} {containers : List Container} :
    checkStatuses commands containers = .ok () ↔
      ∀ p ∈ containers.zip commands, p.1.Acknowledges p.2 := by
  induction commands generalizing containers with
  | nil => simp [checkStatuses]
  | cons command commands ih =>
    cases containers with
    | nil => simp [checkStatuses]
    | cons container containers =>
      have hcheck : checkStatuses (command :: commands) (container :: containers) = .ok () ↔
          container.answers command = .ok () ∧ checkStatuses commands containers = .ok () := by
        rw [checkStatuses]
        rcases container.answers command with e | u
        · exact ⟨fun h => (nomatch h), fun h => (nomatch h.1)⟩
        · exact ⟨fun h => ⟨rfl, h⟩, And.right⟩
      rw [hcheck, Container.answers_eq_ok_iff, ih, List.zip_cons_cons, List.forall_mem_cons]

/-- The containers that are handed out acknowledge the commands, one by one. -/
theorem checkedContainers_eq_ok_iff {commands : List Command} {reply : Bytes}
    {containers : List Container} :
    checkedContainers commands reply = .ok containers ↔ Acknowledged commands reply containers := by
  unfold checkedContainers Acknowledged
  rcases Response.decode reply with e | found
  · simp
  · dsimp only
    rw [List.forall₂_iff_zip]
    by_cases hlen : found.length = commands.length
    · rw [if_neg (not_not_intro hlen)]
      rcases hcheck : checkStatuses commands found with e | u
      · constructor
        · intro h
          cases h
        · rintro ⟨hfound, -, hall⟩
          cases hfound
          rw [checkStatuses_eq_ok_iff.mpr fun p hp => hall hp] at hcheck
          cases hcheck
      · constructor
        · intro h
          cases h
          exact ⟨rfl, hlen, fun hp => checkStatuses_eq_ok_iff.mp hcheck _ hp⟩
        · rintro ⟨hfound, -⟩
          cases hfound
          rfl
    · rw [if_pos hlen]
      constructor
      · intro h
        cases h
      · rintro ⟨hfound, hlen', -⟩
        cases hfound
        exact absurd hlen' hlen

/-- A reply either acknowledges every command or is defective. -/
theorem acknowledged_or_defective (commands : List Command) (reply : Bytes) :
    (∃ containers, Acknowledged commands reply containers) ∨ DefectiveReply commands reply := by
  rcases hdecode : Response.decode reply with e | containers
  · exact Or.inr (.unreadable hdecode)
  by_cases hcount : containers.length = commands.length
  · by_cases hall : ∀ p ∈ containers.zip commands, p.1.Acknowledges p.2
    · exact Or.inl ⟨containers, hdecode, List.forall₂_iff_zip.mpr ⟨hcount, fun hp => hall _ hp⟩⟩
    · obtain ⟨⟨container, command⟩, hplace, hnot⟩ : ∃ p ∈ containers.zip commands,
          ¬ p.1.Acknowledges p.2 := by
        simpa using hall
      by_cases hcommand : container.status.command = command.id
      · have hstatus : container.status.isOk = false := by
          apply Bool.eq_false_iff.mpr
          exact fun hok => hnot ⟨hcommand, hok⟩
        exact Or.inr (.refused hdecode hplace hstatus)
      · exact Or.inr (.misattributed hdecode hplace hcommand)
  · exact Or.inr (.miscounted hdecode hcount)

theorem Acknowledged.acknowledges_at {commands : List Command} {reply : Bytes}
    {containers : List Container} (h : Acknowledged commands reply containers) {place : Nat}
    {container : Container} {command : Command} (hcontainer : containers[place]? = some container)
    (hcommand : commands[place]? = some command) : container.Acknowledges command := by
  have hzip : (containers.zip commands)[place]? = some (container, command) :=
    List.getElem?_zip_eq_some.mpr ⟨hcontainer, hcommand⟩
  exact (List.forall₂_iff_zip.mp h.2).2 (List.mem_of_getElem? hzip)

theorem Acknowledged.isOk {commands : List Command} {reply : Bytes} {containers : List Container}
    (h : Acknowledged commands reply containers) {container : Container}
    (hmem : container ∈ containers) : container.status.isOk = true := by
  obtain ⟨-, hall⟩ := h
  induction hall with
  | nil => cases hmem
  | cons hfirst _ ih =>
    rcases List.mem_cons.mp hmem with rfl | hmem
    · exact hfirst.2
    · exact ih hmem

theorem Acknowledged.not_defective {commands : List Command} {reply : Bytes}
    {containers : List Container} (h : Acknowledged commands reply containers) :
    ¬ DefectiveReply commands reply := by
  obtain ⟨hdecode, hall⟩ := h
  obtain ⟨hlen, hzip⟩ := List.forall₂_iff_zip.mp hall
  intro hdefect
  cases hdefect with
  | unreadable h =>
    rw [hdecode] at h
    cases h
  | miscounted h hcount =>
    rw [hdecode] at h
    cases h
    exact hcount hlen
  | misattributed h hplace hcommand =>
    rw [hdecode] at h
    cases h
    exact hcommand (hzip hplace).1
  | refused h hplace hstatus =>
    rw [hdecode] at h
    cases h
    rw [(hzip hplace).2] at hstatus
    cases hstatus

theorem checkedContainers_of_defective {commands : List Command} {reply : Bytes}
    (h : DefectiveReply commands reply) : ∃ e, checkedContainers commands reply = .error e := by
  rcases hcheck : checkedContainers commands reply with e | containers
  · exact ⟨e, rfl⟩
  · exact absurd h (checkedContainers_eq_ok_iff.mp hcheck).not_defective

/-! ### From stage to stage -/

namespace Action

variable {σ : Type}

/-- What a batch does with a reply. -/
def settle (queries : List Query) (requests : List (List Command)) (reply : Bytes) :
    Action σ Unit := do
  let containers ← ofExcept (checkedContainers requests.flatten reply)
  consume (queries.zip (requests.map List.length)) containers

variable {queries : List Query} {c : Client σ} {requests : List (List Command)} {frame : Bytes}

/-- Without a frame a batch ends as it began. -/
theorem dispatch_of_unsent [Link σ] {e : ClientError} (h : Unsent c.memory.cells queries e) :
    dispatch queries c = .error e c := by
  rw [dispatch, EStateM.bind_of_ok (x := Action.memory) rfl]
  cases h with
  | unmade hsplit hearlier h =>
    rw [hsplit, batchRequests_of_unmade hearlier h]
    rfl
  | @unframed requests e hmade h =>
    have hnonempty : requests.flatten.isEmpty = false := by
      rw [List.isEmpty_eq_false_iff]
      intro hempty
      rw [hempty] at h
      cases h
    rw [batchRequests_of_makes hmade, EStateM.bind_of_ok (x := ofExcept (.ok requests)) rfl, hnonempty,
      if_neg Bool.false_ne_true, h]
    rfl

/-- A batch without commands ends as it began. -/
theorem dispatch_of_silent [Link σ] (h : Makes c.memory.cells queries requests)
    (hempty : requests.flatten = []) : dispatch queries c = .ok () c := by
  rw [dispatch, EStateM.bind_of_ok (x := Action.memory) rfl, batchRequests_of_makes h,
    EStateM.bind_of_ok (x := ofExcept (.ok requests)) rfl, hempty]
  rfl

/-- A batch that has a frame makes a round trip. -/
theorem dispatch_of_sends [Link σ] (h : Sends c.memory.cells queries requests frame) :
    dispatch queries c =
      (do let reply ← roundTrip frame; settle queries requests reply : Action σ Unit) c := by
  have hnonempty : requests.flatten.isEmpty = false := List.isEmpty_eq_false_iff.mpr h.nonempty
  rw [dispatch, EStateM.bind_of_ok (x := Action.memory) rfl, batchRequests_of_makes h.made,
    EStateM.bind_of_ok (x := ofExcept (.ok requests)) rfl, hnonempty, if_neg Bool.false_ne_true,
    h.framed, EStateM.bind_of_ok (x := framed (.ok frame)) rfl]
  rfl

/-- A batch whose round trip fails has not been answered. -/
theorem dispatch_of_lost [Link σ] (h : Sends c.memory.cells queries requests frame)
    {e : ClientError} {link : σ} (htransact : Link.transact frame c.link = .error e link) :
    dispatch queries c = .error e { c with link } := by
  have hlost : (roundTrip frame : Action σ Bytes) c = .error e { c with link } := by
    have hfail : (transact frame : Action σ Bytes) c = .error e { c with link } := by
      unfold transact
      rw [htransact]
    exact EStateM.bind_of_error hfail
  rw [dispatch_of_sends h, EStateM.bind_of_error hlost]

/-- A batch that was answered has made one round trip more when it looks at the reply. -/
theorem dispatch_of_answered [Link σ] (h : Sends c.memory.cells queries requests frame)
    {reply : Bytes} {link : σ} (htransact : Link.transact frame c.link = .ok reply link) :
    dispatch queries c =
      settle queries requests reply { c with link, roundTrips := c.roundTrips + 1 } := by
  have hanswered : (roundTrip frame : Action σ Bytes) c =
      .ok reply { c with link, roundTrips := c.roundTrips + 1 } := by
    have hsent : (transact frame : Action σ Bytes) c = .ok reply { c with link } := by
      unfold transact
      rw [htransact]
    rw [roundTrip, EStateM.bind_of_ok hsent]
    rfl
  rw [dispatch_of_sends h, EStateM.bind_of_ok hanswered]

/-- A defective reply is not handed out. -/
theorem settle_of_defective (queries : List Query) (c : Client σ) {reply : Bytes}
    (h : DefectiveReply requests.flatten reply) :
    ∃ e, settle queries requests reply c = .error e c := by
  obtain ⟨e, hcheck⟩ := checkedContainers_of_defective h
  refine ⟨e, ?_⟩
  rw [settle, hcheck]
  rfl

/-- Queries that send one command each are handed one container each. -/
theorem zip_lengths {commands : List Command} (h : queries.length = commands.length) :
    queries.zip ((commands.map ([·])).map List.length) = queries.map (·, 1) := by
  induction queries generalizing commands with
  | nil => rfl
  | cons q queries ih =>
    obtain ⟨command, commands, rfl⟩ := List.exists_cons_of_length_eq_add_one h.symm
    rw [List.map_cons, List.map_cons, List.zip_cons_cons, ih (Nat.succ.inj h)]
    rfl

/-- A reply that acknowledges the commands of built-in queries is handed out to them. -/
theorem settle_of_acknowledged {reply : Bytes} {containers : List Container}
    (hmade : Makes c.memory.cells queries requests) (hlib : ∀ q ∈ queries, q.BuiltIn)
    (h : Acknowledged requests.flatten reply containers) :
    settle queries requests reply c = consume (queries.map (·, 1)) containers c := by
  obtain ⟨hsingle, hlen⟩ := hmade.single hlib
  have hzip : queries.zip (requests.map List.length) = queries.map (·, 1) := by
    rw [hsingle]
    exact zip_lengths hlen
  rw [settle, checkedContainers_eq_ok_iff.mpr h,
    EStateM.bind_of_ok (x := ofExcept (.ok containers)) rfl, hzip]

variable {containers : List Container} {i : Intake}

/-- A batch of built-in queries that was answered well remembers what its queries do, and succeeds if
they all do. -/
theorem dispatch_of_acknowledged [Link σ] {reply : Bytes} {containers : List Container} {link : σ}
    (hlib : ∀ q ∈ queries, q.BuiltIn) (h : Sends c.memory.cells queries requests frame)
    (htransact : Link.transact frame c.link = .ok reply link)
    (hreply : Acknowledged requests.flatten reply containers) :
    dispatch queries c =
      match takeAll queries { pending := containers, cells := c.memory.cells } with
      | .ok () i => .ok () ⟨link, c.roundTrips + 1, { c.memory with cells := i.cells }⟩
      | .error e i => .error e ⟨link, c.roundTrips + 1, { c.memory with cells := i.cells }⟩ := by
  have hsettle := settle_of_acknowledged (c := { c with link, roundTrips := c.roundTrips + 1 }) h.made
    hlib hreply
  rcases hrun : takeAll queries { pending := containers, cells := c.memory.cells } with ⟨_, i⟩ | ⟨e, i⟩
  · rw [dispatch_of_answered h htransact, hsettle, consume, consumeAll_eq_takeAll hlib, hrun]
  · rw [dispatch_of_answered h htransact, hsettle, consume, consumeAll_eq_takeAll hlib, hrun]

end Action

end TrafficControl
