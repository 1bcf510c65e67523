import TrafficControl.CommandLine.Session
import TrafficControl.Proofs.Query.Frames
import TrafficControl.Proofs.Query.Slots
import TrafficControl.Proofs.Traffic.Told
import TrafficControl.Proofs.Transport.Sending

/-!
# What a session asks

A session asks six kinds of question, each in one round trip: the commands of a question are always the
same but for the time that a tick goes to, and what the reply has to tell is of a fixed kind. A question
with its answer is an `Exchange`. A link has carried a conversation if it has brought an acceptable reply
to each of its questions, one after another (`Converses`). It refuses a question if the round trip fails or
the reply is not acceptable (`Refuses`).

* `Question.ready`: what is remembered when a question can be asked.
* `Converses.moves`, `Refuses.sent`: what conversations and refusals move over a stream.
-/

namespace TrafficControl

namespace Session

variable {σ : Type}

/-! ### Questions -/

/-- What a session asks in one round trip. -/
inductive Question where
  /-- How long a step is. -/
  | stepLength
  /-- Which vehicles are there already, and what time it is. -/
  | bootstrap
  | version
  /-- To go on to a time, and what happened meanwhile. -/
  | tick (target : Binary64)
  /-- How many vehicles are still expected. -/
  | expected
  /-- To shut down. -/
  | close

namespace Question

/-- What a question is answered with. -/
abbrev Answer : Question → Type
  | stepLength => Binary64
  | bootstrap => Binary64 × IdSet
  | version => Int32 × String
  | tick _ => TickAnswer
  | expected => Int32
  | close => Unit

/-- A command that reads a variable of an object without a name. -/
def reading (command code : UInt8) : Command := ⟨command, [code, 0, 0, 0, 0]⟩

/-- The commands of a question. -/
def commands : Question → List Command
  | stepLength => [reading Code.getSimulation Code.stepLength]
  | bootstrap => [reading Code.getVehicle Code.idList, reading Code.getSimulation Code.time]
  | version => [⟨Code.getVersion, []⟩]
  | tick target =>
    [⟨Code.simulationStep, (Emission.binary64 target).bytes⟩, reading Code.getVehicle Code.idList,
      reading Code.getSimulation Code.teleportStarting, reading Code.getSimulation Code.teleportEnding,
      reading Code.getSimulation Code.arrived, reading Code.getSimulation Code.time]
  | expected => [reading Code.getSimulation Code.minExpected]
  | close => [⟨Code.close, []⟩]

/-- The frame of a question. -/
def frame (q : Question) : Bytes := (Request.encode q.commands).toOption.getD []

theorem encode_commands (q : Question) : Request.encode q.commands = .ok q.frame := by
  cases q <;> rfl

/-- The object that owns the queries about the simulation as a whole: a session makes it first. -/
def whole : Handle := 0

/-- The lifecycle of a session is made after four repositories. -/
def lifecycle : Lifecycle := { handle := 5 }

/-- The queries that make the commands of a question. -/
def queries : Question → List Query
  | stepLength => [.read (Simulation.wholeQuery whole 2 Code.stepLength .double)]
  | bootstrap => lifecycle.bootstrapBatch
  | version => [.version ⟨whole, 0⟩]
  | tick _ => lifecycle.tickBatch
  | expected => [.read (Simulation.wholeQuery whole 0 Code.minExpected .int)]
  | close => [.close]

/-- What the containers of a reply tell. -/
def told? : (q : Question) → List Container → Option q.Answer
  | stepLength, [container] =>
    (Simulation.wholeQuery whole 2 Code.stepLength .double).told? Binary64 container
  | bootstrap, containers => lifecycle.bootstrapAnswer? containers
  | version, [container] => (versionOf container).toOption
  | tick _, containers => lifecycle.tickAnswer? containers
  | expected, [container] =>
    (Simulation.wholeQuery whole 0 Code.minExpected .int).told? Int32 container
  | close, _ => some ()
  | _, _ => none

theorem builtIn_of_mem_queries (q : Question) : ∀ p ∈ q.queries, p.BuiltIn := by
  cases q <;> simp [queries, Lifecycle.bootstrapBatch, Lifecycle.tickBatch, Query.BuiltIn]

end Question

/-! ### Exchanges -/

/-- A question and its answer. -/
abbrev Exchange := (q : Question) × q.Answer

/-- A reply gives an answer: every command is acknowledged, every query makes something of the container
at its place, and the containers tell the answer. -/
def Exchange.AnsweredBy (x : Exchange) (reply : Bytes) : Prop :=
  ∃ containers effects, Acknowledged x.1.commands reply containers ∧
    Takes x.1.queries containers effects ∧ x.1.told? containers = some x.2

/-- A reply gives at most one answer to a question. -/
theorem Exchange.AnsweredBy.unique {q : Question} {a b : q.Answer} {reply : Bytes}
    (ha : Exchange.AnsweredBy ⟨q, a⟩ reply) (hb : Exchange.AnsweredBy ⟨q, b⟩ reply) : a = b := by
  obtain ⟨containers, -, ⟨hdecode, -⟩, -, htold⟩ := ha
  obtain ⟨containers', -, ⟨hdecode', -⟩, -, htold'⟩ := hb
  cases hdecode.symm.trans hdecode'
  exact Option.some.inj (htold.symm.trans htold')

/-! ### Conversations -/

/-- `Converses l xs l'`: the link has carried these exchanges, one after another, between two of its
states. -/
inductive Converses [Link σ] : σ → List Exchange → σ → Prop
  | nil (l : σ) : Converses l [] l
  | cons {l l₁ l₂ : σ} {x : Exchange} {xs : List Exchange} {reply : Bytes}
      (htransact : Link.transact x.1.frame l = .ok reply l₁) (hanswered : x.AnsweredBy reply)
      (hrest : Converses l₁ xs l₂) : Converses l (x :: xs) l₂

/-- `Refuses q l l'`: the round trip of a question fails, or its reply gives no answer. -/
def Refuses [Link σ] (q : Question) (l l' : σ) : Prop :=
  (∃ e, Link.transact q.frame l = .error e l') ∨
    ∃ reply, Link.transact q.frame l = .ok reply l' ∧ ∀ a, ¬ Exchange.AnsweredBy ⟨q, a⟩ reply

namespace Converses

variable [Link σ] {l l₁ l₂ : σ} {xs ys : List Exchange}

theorem append (h : Converses l xs l₁) (h' : Converses l₁ ys l₂) : Converses l (xs ++ ys) l₂ := by
  induction h with
  | nil => exact h'
  | cons htransact hanswered _ ih => exact .cons htransact hanswered (ih h')

/-- What is refused was not answered. -/
theorem not_refuses {x : Exchange} (h : Converses l (x :: xs) l₁) : ¬ Refuses x.1 l l₂ := by
  obtain ⟨q, a⟩ := x
  cases h with | @cons _ _ _ _ _ reply htransact hanswered _ => ?_
  rintro (⟨e, hfail⟩ | ⟨reply', hreply, hnone⟩)
  · rw [htransact] at hfail
    cases hfail
  · cases htransact.symm.trans hreply
    exact hnone a hanswered

end Converses

/-! ### Streams -/

/-- The frames of exchanges. -/
def frames (xs : List Exchange) : Bytes := xs.flatMap fun x => x.1.frame

/-- A conversation over a stream sends the frames of its questions and takes one reply to each. -/
theorem Converses.moves {s t : Stream} {xs : List Exchange} (h : Converses s xs t) :
    ∃ replies, List.Forall₂ Exchange.AnsweredBy xs replies ∧ (∀ r ∈ replies, Stream.IsFrame r) ∧
      s.Moves (frames xs) replies.flatten t := by
  induction h with
  | nil l => exact ⟨[], .nil, List.forall_mem_nil _, .nothing l⟩
  | @cons s s₁ t x xs reply htransact hanswered _ ih =>
    obtain ⟨replies, hall, hframes, hmoves⟩ := ih
    obtain ⟨hmoved, hframe⟩ := Stream.exchange_eq_ok htransact
    refine ⟨reply :: replies, .cons hanswered hall, List.forall_mem_cons.mpr ⟨hframe, hframes⟩, ?_⟩
    exact hmoved.trans hmoves

/-- A conversation leaves a fluent stream fluent. -/
theorem Converses.fluent {s t : Stream} {xs : List Exchange} (h : Converses s xs t) (hs : s.Fluent) :
    t.Fluent := by
  induction h with
  | nil => exact hs
  | cons htransact _ _ ih => exact ih (Stream.fluent_of_exchange hs htransact)

/-- What was sent of a question that is refused: the first bytes of its frame, and all of them if the
stream is fluent. -/
theorem Refuses.sent {s t : Stream} {q : Question} (h : Refuses q s t) :
    ∃ part, part <+: q.frame ∧ t.sent = s.sent ++ part ∧ (s.Fluent → part = q.frame) := by
  rcases h with ⟨e, hfail⟩ | ⟨reply, hreply, -⟩
  · exact Stream.exchange_fails hfail
  · exact ⟨q.frame, List.prefix_rfl, (Stream.exchange_eq_ok hreply).1.sent_eq, fun _ => rfl⟩

/-! ### Asking -/

namespace Question

/-- The queries of a question make its commands. -/
def Ready (q : Question) (cells : Cells) : Prop :=
  batchRequests cells q.queries = .ok (q.commands.map ([·]))

/-- A read of an object without a name makes the same command as long as it has no parameter. -/
theorem requests_of_plain {cells : Cells} (hparameters : cells.parameters = ∅) (r : ReadQuery)
    (hobject : r.object = "") (hneeds : r.needsParameter = false) :
    (Query.read r).requests cells = .ok [reading r.command r.code] := by
  have hnone : cells.parameters[r.cell]? = none := by
    rw [hparameters, Std.ExtTreeMap.getElem?_empty]
  obtain ⟨cell, command, object, code, type, needs⟩ := r
  cases hobject
  cases hneeds
  unfold Query.requests ReadQuery.request
  dsimp only at hnone ⊢
  rw [hnone]
  rfl

/-- As long as no read has a parameter, the queries of a question make its commands, if the time that a
tick goes to is set. -/
theorem ready (q : Question) {cells : Cells} (hparameters : cells.parameters = ∅)
    (htarget : ∀ target, q = .tick target → cells.target lifecycle.stepCell = target) :
    q.Ready cells := by
  have hread := requests_of_plain hparameters
  refine batchRequests_of_makes ?_
  cases q with
  | stepLength | expected => exact .cons (hread _ rfl rfl) .nil
  | bootstrap => exact .cons (hread _ rfl rfl) (.cons (hread _ rfl rfl) .nil)
  | version | close => exact .cons rfl .nil
  | tick target =>
    refine .cons ?_ (.cons (hread _ rfl rfl) (.cons (hread _ rfl rfl) (.cons (hread _ rfl rfl)
      (.cons (hread _ rfl rfl) (.cons (hread _ rfl rfl) .nil)))))
    rw [Query.requests, htarget target rfl]

end Question

end Session

end TrafficControl
