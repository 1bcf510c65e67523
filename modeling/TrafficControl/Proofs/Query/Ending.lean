import TrafficControl.Proofs.Client.Outcome
import TrafficControl.Proofs.Query.Answering
import TrafficControl.Proofs.Transport.Delivery

/-!
# How a batch ends

A batch of built-in queries ends in exactly one of five ways (`EndsBy`), and in each of them it is
known what was counted and what was remembered: nothing before the reply was found good, and after
that what the queries in front of the first failing one have taken. A refusal by the simulator is
found before anything is remembered, wherever in the reply it stands (`dispatch_ends_in_one_way`).
-/

namespace TrafficControl

/-- The ways in which a batch ends. -/
inductive Ending where
  /-- The frame could not be made. -/
  | unsent
  /-- The round trip failed. -/
  | lost
  /-- The reply was defective. -/
  | rejected
  /-- The query at a place could make nothing of its container. -/
  | stuck (place : Nat)
  | completed
  deriving DecidableEq, Repr

variable {σ : Type} [Link σ] {queries : List Query} {c : Client σ} {way : Ending}

/-- `EndsBy queries c way r`: a batch that was started by the client `c` ends in a way with the result
`r`. -/
inductive EndsBy (queries : List Query) (c : Client σ) :
    Ending → EStateM.Result ClientError (Client σ) Unit → Prop
  /-- The client is as it was: the link was not called. -/
  | unsent {e : ClientError} (h : Unsent c.memory.cells queries e) :
      EndsBy queries c .unsent (.error e c)
  /-- Only the link has gone on. -/
  | lost {requests : List (List Command)} {frame : Bytes} {e : ClientError} {link : σ}
      (h : Sends c.memory.cells queries requests frame)
      (htransact : Link.transact frame c.link = .error e link) :
      EndsBy queries c .lost (.error e { c with link })
  /-- The round trip was counted, and nothing was remembered. -/
  | rejected {requests : List (List Command)} {frame reply : Bytes} {e : ClientError} {link : σ}
      (h : Sends c.memory.cells queries requests frame)
      (htransact : Link.transact frame c.link = .ok reply link)
      (hreply : DefectiveReply requests.flatten reply) :
      EndsBy queries c .rejected (.error e { c with link, roundTrips := c.roundTrips + 1 })
  /-- The queries before the failing one have taken their containers, and what they remembered stays.
  The failing query changed nothing, and no later one came to its turn. -/
  | stuck {requests : List (List Command)} {frame reply : Bytes} {link : σ}
      {containers taken left : List Container} {container : Container} {earlier later : List Query}
      {q : Query} {cells : Cells} {e : ClientError}
      (h : Sends c.memory.cells queries requests frame)
      (htransact : Link.transact frame c.link = .ok reply link)
      (hreply : Acknowledged requests.flatten reply containers)
      (hsplit : queries = earlier ++ q :: later) (hat : containers = taken ++ container :: left)
      (hearlier : takeAll earlier { pending := containers, cells := c.memory.cells } =
        .ok () { pending := container :: left, consumed := earlier.length, cells })
      (hq : q.consume { pending := container :: left, consumed := earlier.length, cells } =
        .error e { pending := left, consumed := earlier.length + 1, cells }) :
      EndsBy queries c (.stuck earlier.length)
        (.error e ⟨link, c.roundTrips + 1, { c.memory with cells }⟩)
  /-- All queries have taken their containers, in order. -/
  | completed {requests : List (List Command)} {frame reply : Bytes} {link : σ}
      {containers : List Container} {cells : Cells}
      (h : Sends c.memory.cells queries requests frame)
      (htransact : Link.transact frame c.link = .ok reply link)
      (hreply : Acknowledged requests.flatten reply containers)
      (hall : takeAll queries { pending := containers, cells := c.memory.cells } =
        .ok () { pending := [], consumed := queries.length, cells }) :
      EndsBy queries c .completed (.ok () ⟨link, c.roundTrips + 1, { c.memory with cells }⟩)
  /-- A batch without queries has nothing to do. -/
  | empty (h : queries = []) : EndsBy queries c .completed (.ok () c)

/-! ### There is a way -/

/-- Built-in queries that have nothing to send are no queries. -/
theorem Makes.eq_nil {cells : Cells} {requests : List (List Command)}
    (h : Makes cells queries requests) (hlib : ∀ q ∈ queries, q.BuiltIn)
    (hempty : requests.flatten = []) : queries = [] := by
  obtain ⟨-, hlen⟩ := h.single hlib
  rw [hempty] at hlen
  exact List.eq_nil_of_length_eq_zero hlen

/-- A good reply holds as many containers as there are built-in queries. -/
theorem Acknowledged.length_eq {cells : Cells} {requests : List (List Command)} {reply : Bytes}
    {containers : List Container} (h : Acknowledged requests.flatten reply containers)
    (hmade : Makes cells queries requests) (hlib : ∀ q ∈ queries, q.BuiltIn) :
    queries.length = containers.length := by
  rw [(hmade.single hlib).2, h.2.length_eq]

/-- A batch that gets a good reply is completed, or some query of it is stuck. -/
theorem endsBy_of_acknowledged {requests : List (List Command)} {frame reply : Bytes} {link : σ}
    {containers : List Container} (hlib : ∀ q ∈ queries, q.BuiltIn)
    (h : Sends c.memory.cells queries requests frame)
    (htransact : Link.transact frame c.link = .ok reply link)
    (hreply : Acknowledged requests.flatten reply containers) :
    ∃ way, EndsBy queries c way (Action.dispatch queries c) := by
  have hlen := hreply.length_eq h.made hlib
  rcases takes_or_stuck hlen with ⟨effects, htakes⟩ |
    ⟨earlier, q, later, taken, container, left, effects, e, rfl, rfl, htakes, hfail⟩
  · have hall := takeAll_of_takes htakes hlib [] 0 c.memory.cells
    rw [List.append_nil, Nat.zero_add, ← hlen] at hall
    refine ⟨.completed, ?_⟩
    rw [Action.dispatch_of_acknowledged hlib h htransact hreply, hall]
    exact .completed h htransact hreply hall
  · obtain ⟨hearlier, hrest⟩ := List.forall_mem_append.mp hlib
    have hq := hrest q List.mem_cons_self
    have hplace : earlier.length = taken.length := htakes.length_eq.1
    have htaken := takeAll_of_takes htakes hearlier (container :: left) 0 c.memory.cells
    have hstuck := takeAll_of_stuck htakes hearlier hq hfail later left 0 c.memory.cells
    rw [Nat.zero_add, ← hplace] at htaken hstuck
    refine ⟨.stuck earlier.length, ?_⟩
    rw [Action.dispatch_of_acknowledged hlib h htransact hreply, hstuck]
    exact .stuck h htransact hreply rfl rfl htaken (Query.consume_of_failure hq hfail)

theorem exists_endsBy (hlib : ∀ q ∈ queries, q.BuiltIn) (c : Client σ) :
    ∃ way, EndsBy queries c way (Action.dispatch queries c) := by
  rcases sends_or_not c.memory.cells queries with
    ⟨requests, frame, hsends⟩ | ⟨requests, hmade, hempty⟩ | ⟨e, hunsent⟩
  · rcases htransact : Link.transact frame c.link with ⟨reply, link⟩ | ⟨e, link⟩
    · rcases acknowledged_or_defective requests.flatten reply with ⟨containers, hreply⟩ | hreply
      · exact endsBy_of_acknowledged hlib hsends htransact hreply
      · obtain ⟨e, hsettle⟩ := Action.settle_of_defective queries
          { c with link, roundTrips := c.roundTrips + 1 } hreply
        refine ⟨.rejected, ?_⟩
        rw [Action.dispatch_of_answered hsends htransact, hsettle]
        exact .rejected hsends htransact hreply
    · refine ⟨.lost, ?_⟩
      rw [Action.dispatch_of_lost hsends htransact]
      exact .lost hsends htransact
  · refine ⟨.completed, ?_⟩
    rw [Action.dispatch_of_silent hmade hempty]
    exact .empty (hmade.eq_nil hlib hempty)
  · refine ⟨.unsent, ?_⟩
    rw [Action.dispatch_of_unsent hunsent]
    exact .unsent hunsent

/-! ### There is no second way -/

/-- The way in which a batch ends, stage by stage. -/
def endingOf (queries : List Query) (c : Client σ) : Ending :=
  match batchRequests c.memory.cells queries with
  | .error _ => .unsent
  | .ok requests =>
    if requests.flatten = [] then .completed
    else
      match Request.encode requests.flatten with
      | .error _ => .unsent
      | .ok frame =>
        match Link.transact frame c.link with
        | .error _ _ => .lost
        | .ok reply _ =>
          match checkedContainers requests.flatten reply with
          | .error _ => .rejected
          | .ok containers =>
            match takeAll queries { pending := containers, cells := c.memory.cells } with
            | .ok _ _ => .completed
            | .error _ i => .stuck (i.consumed - 1)

theorem endingOf_of_sends {requests : List (List Command)} {frame : Bytes}
    (h : Sends c.memory.cells queries requests frame) :
    endingOf queries c =
      match Link.transact frame c.link with
      | .error _ _ => .lost
      | .ok reply _ =>
        match checkedContainers requests.flatten reply with
        | .error _ => .rejected
        | .ok containers =>
          match takeAll queries { pending := containers, cells := c.memory.cells } with
          | .ok _ _ => .completed
          | .error _ i => .stuck (i.consumed - 1) := by
  unfold endingOf
  rw [batchRequests_of_makes h.made]
  dsimp only
  rw [if_neg h.nonempty, h.framed]

theorem endingOf_of_unsent {e : ClientError} (h : Unsent c.memory.cells queries e) :
    endingOf queries c = .unsent := by
  unfold endingOf
  cases h with
  | unmade hsplit hearlier h => rw [hsplit, batchRequests_of_unmade hearlier h]
  | @unframed requests e hmade h =>
    have hnonempty : requests.flatten ≠ [] := by
      intro hempty
      rw [hempty] at h
      cases h
    rw [batchRequests_of_makes hmade]
    dsimp only
    rw [if_neg hnonempty, h]

theorem EndsBy.eq_endingOf {r : EStateM.Result ClientError (Client σ) Unit}
    (h : EndsBy queries c way r) : way = endingOf queries c := by
  cases h with
  | unsent h => rw [endingOf_of_unsent h]
  | lost h htransact => rw [endingOf_of_sends h, htransact]
  | rejected h htransact hreply =>
    obtain ⟨e, hcheck⟩ := checkedContainers_of_defective hreply
    rw [endingOf_of_sends h, htransact]
    dsimp only
    rw [hcheck]
  | stuck h htransact hreply hsplit hat hearlier hq =>
    rw [endingOf_of_sends h, htransact]
    dsimp only
    rw [checkedContainers_eq_ok_iff.mpr hreply]
    dsimp only
    rw [hsplit, takeAll_append, EStateM.bind_of_ok hearlier, takeAll_cons, EStateM.bind_of_error hq]
    rfl
  | completed h htransact hreply hall =>
    rw [endingOf_of_sends h, htransact]
    dsimp only
    rw [checkedContainers_eq_ok_iff.mpr hreply]
    dsimp only
    rw [hall]
  | empty h =>
    rw [h]
    rfl

/-! ### Refusals -/

/-- The query that is stuck reports no refusal, since its container's status is good. -/
theorem ne_refused_of_stuck {q : Query} {container : Container} {left : List Container}
    {consumed : Nat} {cells : Cells} {e : ClientError} {i : Intake} (hlib : q.BuiltIn)
    (hok : container.status.isOk = true)
    (h : q.consume { pending := container :: left, consumed, cells } = .error e i)
    (command result : UInt8) (description : String) : e ≠ .refused command result description := by
  rintro rfl
  rcases heffect : q.effectOf container with e | f
  · rw [Query.consume_of_failure hlib heffect] at h
    cases h
    exact Query.effectOf_ne_refused hok heffect
  · rw [Query.consume_of_effect hlib heffect] at h
    cases h

/-- A batch that ends with a refusal remembers nothing. -/
theorem EndsBy.memory_of_refused {r : EStateM.Result ClientError (Client σ) Unit}
    (h : EndsBy queries c way r) (hlib : ∀ q ∈ queries, q.BuiltIn) {command result : UInt8}
    {description : String} {c' : Client σ} (hr : r = .error (.refused command result description) c') :
    c'.memory = c.memory := by
  cases h with
  | unsent | lost | rejected =>
    cases hr
    rfl
  | stuck h htransact hreply hsplit hat hearlier hq =>
    cases hr
    have hok := hreply.isOk (hat ▸ List.mem_append_right _ List.mem_cons_self)
    have hbuiltIn := hlib _ (hsplit ▸ List.mem_append_right _ List.mem_cons_self)
    exact absurd rfl (ne_refused_of_stuck hbuiltIn hok hq command result description)
  | completed | empty => cases hr

/-! ### The theorem -/

/-- Whatever the queries, the link and the reply are, a batch of built-in queries ends in exactly one
of the ways of `EndsBy`; and whenever it ends with a refusal, what is remembered is as it was. -/
theorem dispatch_ends_in_one_way (hlib : ∀ q ∈ queries, q.BuiltIn) (c : Client σ) :
    (∃! way, EndsBy queries c way (Action.dispatch queries c)) ∧
    ∀ command result description c',
      Action.dispatch queries c = .error (.refused command result description) c' →
      c'.memory = c.memory := by
  obtain ⟨way, hends⟩ := exists_endsBy hlib c
  constructor
  · refine ⟨way, hends, ?_⟩
    intro other hother
    rw [hother.eq_endingOf, hends.eq_endingOf]
  · intro command result description c' hrefused
    exact hends.memory_of_refused hlib hrefused

/-! A batch of two reads of one variable of two vehicles, and a reply that is about the first vehicle
twice. -/

namespace Misdirected

def first : ReadQuery where
  cell := ⟨0, 0⟩
  command := Code.getVehicle
  object := "v0"
  code := Code.speed
  type := .double

def second : ReadQuery := { first with cell := ⟨1, 0⟩, object := "v1" }

def batch : List Query := [.read first, .read second]

def containers : List Container :=
  [.accepting ⟨Code.getVehicle, []⟩ (.single (first.answer (.double ⟨1⟩))) "",
    .accepting ⟨Code.getVehicle, []⟩ (.single (first.answer (.double ⟨2⟩))) ""]

def client : Client Stream := { link := .awaiting [containers] }

end Misdirected

open Misdirected in
/-- The first read keeps its value, the second one is stuck. -/
theorem dispatch_misdirected :
    (∃! way, EndsBy batch client way (Action.dispatch batch client)) ∧
    EndsBy batch client (.stuck 1) (Action.dispatch batch client) ∧
    ∃ c', Action.dispatch batch client = .error (.unexpectedObject "v1" "v0") c' ∧
      c'.roundTrips = 1 ∧ c'.memory.cells.cached.contains first.cell = true ∧
      c'.memory.cells.cached.contains second.cell = false := by
  have hlib : ∀ q ∈ batch, q.BuiltIn := by decide
  obtain ⟨hone, -⟩ := dispatch_ends_in_one_way hlib client
  have hstuck : endingOf batch client = .stuck 1 := by decide +kernel
  have hplay : (Action.dispatch batch).failsWith (fun e c =>
      e == .unexpectedObject "v1" "v0" && (c.roundTrips == 1 &&
        (c.memory.cells.cached.contains first.cell &&
          !c.memory.cells.cached.contains second.cell))) client = true := by
    decide +kernel
  obtain ⟨e, c', hdispatch, htest⟩ := Action.of_failsWith hplay
  simp only [Bool.and_eq_true, beq_iff_eq, Bool.not_eq_true'] at htest
  obtain ⟨rfl, htrips, hfirst, hsecond⟩ := htest
  refine ⟨hone, ?_, c', hdispatch, htrips, hfirst, hsecond⟩
  obtain ⟨way, hends, -⟩ := hone
  rwa [hends.eq_endingOf, hstuck] at hends

end TrafficControl
