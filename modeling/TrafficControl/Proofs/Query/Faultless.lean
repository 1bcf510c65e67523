import TrafficControl.Proofs.Query.Inversion
import TrafficControl.Proofs.Query.Unsent
import TrafficControl.Proofs.Transport.Moves

/-!
# Failures that are the client's own fault

Some failures tell of a mistake of the client itself: a query that lacks what it has to send, an answer
of another kind than its reader expects, a container without the answer that its status promises. No
reply can bring them about. The status of a container is looked at before any query takes it, a
container that was read has the shape that its status announces, and that is the shape the query with
this command expects; so a batch whose queries are ready to be sent never fails in such a way, whatever
the simulator says (`BatchFailure.isInternal_eq_false`).
-/

namespace TrafficControl

/-- Whether a failure is the client's own fault. -/
def ClientError.isInternal : ClientError → Bool
  | missingResponse _ | valueConversion .. | missingParameter .. | missingValue .. | broken _ => true
  | _ => false

/-- A link reports what went wrong with a round trip, and blames nothing on its client. -/
class HonestLink (σ : Type) [Link σ] : Prop where
  isInternal_eq_false {frame : Bytes} {link link' : σ} {e : ClientError}
    (h : Link.transact frame link = .error e link') : e.isInternal = false

/-- Failures that leave the connection in doubt are not the client's own fault. -/
theorem ClientError.isInternal_eq_false_of_isFatal {e : ClientError} (h : e.isFatal = true) :
    e.isInternal = false := by
  cases e <;> first | rfl | cases h

instance : HonestLink Stream :=
  ⟨fun h => ClientError.isInternal_eq_false_of_isFatal (Stream.isFatal_of_exchange h)⟩

/-! ### Before anything is sent -/

/-- The query has what it needs to make its commands. -/
def Query.Ready (cells : Cells) : Query → Prop
  | .read q => q.needsParameter = true → ∃ v, cells.parameters[q.cell]? = some v
  | .change q => ∃ v, cells.changes[q.cell]? = some v
  | _ => True

/-- A query that is ready lacks nothing. -/
theorem Query.Ready.not_lacks {q : Query} {cells : Cells} {e : ClientError} (h : q.Ready cells) :
    ¬ q.Lacks cells e := by
  rintro (⟨hneeds, hnone, -⟩ | ⟨hnone⟩)
  · obtain ⟨v, hv⟩ := h hneeds
    rw [hnone] at hv
    cases hv
  · obtain ⟨v, hv⟩ := h
    rw [hnone] at hv
    cases hv

/-- A query that is ready fails to make its commands only if they cannot be written. -/
theorem Query.requests_isInternal {q : Query} {cells : Cells} {e : ClientError}
    (hready : q.Ready cells) (h : q.requests cells = .error e) : e.isInternal = false := by
  rcases requests_eq_error_iff.mp h with hlacks | ⟨failure, -, rfl⟩
  · exact absurd hlacks hready.not_lacks
  · rfl

theorem Unsent.isInternal_eq_false {cells : Cells} {queries : List Query} {e : ClientError}
    (h : Unsent cells queries e) (hready : ∀ q ∈ queries, q.Ready cells) : e.isInternal = false := by
  cases h with
  | unmade hsplit hearlier h =>
    have hmem := hsplit ▸ List.mem_append_right _ List.mem_cons_self
    exact Query.requests_isInternal (hready _ hmem) h
  | unframed => rfl

/-! ### Before anything is taken -/

/-- A reply that is not handed out is the simulator's fault. -/
theorem checkedContainers_isInternal {commands : List Command} {reply : Bytes} {e : ClientError}
    (h : checkedContainers commands reply = .error e) : e.isInternal = false := by
  unfold checkedContainers at h
  split at h
  · cases h
    rfl
  · split at h
    · cases h
      rfl
    · rcases checkStatuses_eq_error (Except.map_eq_error_iff.mp h) with ⟨_, _, rfl⟩ | ⟨_, _, _, rfl⟩
      · rfl
      · rfl

/-! ### Taking answers -/

namespace Container

variable {container : Container} {command : Command}

/-- A container that acknowledges a command which returns something holds what it returns: a list
after a step, and else a single answer. -/
theorem Shaped.reply_cases (h : container.Shaped) (hack : container.Acknowledges command)
    (hreturns : Code.isStatusOnly command.id = false) :
    (∃ answers, container.reply = .several answers ∧ command.id = Code.simulationStep) ∨
      ∃ answer, container.reply = .single answer ∧ command.id ≠ Code.simulationStep := by
  obtain ⟨hcommand, hok⟩ := hack
  unfold Shaped at h
  split at h
  · rw [hcommand, hok, hreturns] at h
    simp at h
  · next answer hreply => exact Or.inr ⟨answer, hreply, hcommand ▸ h.2.2⟩
  · next answers hreply => exact Or.inl ⟨answers, hreply, hcommand ▸ h.2.2⟩

theorem Shaped.answer?_eq_some (h : container.Shaped) (hack : container.Acknowledges command)
    (hreturns : Code.isStatusOnly command.id = false) (hstep : command.id ≠ Code.simulationStep) :
    ∃ answer, container.answer? = some answer := by
  rcases h.reply_cases hack hreturns with ⟨answers, -, hcommand⟩ | ⟨answer, hreply, -⟩
  · exact absurd hcommand hstep
  · refine ⟨answer, ?_⟩
    unfold answer?
    rw [hreply]

theorem Shaped.answers?_eq_some (h : container.Shaped) (hack : container.Acknowledges command)
    (hstep : command.id = Code.simulationStep) : ∃ answers, container.answers? = some answers := by
  have hreturns : Code.isStatusOnly command.id = false := by
    rw [hstep]
    decide
  rcases h.reply_cases hack hreturns with ⟨answers, hreply, -⟩ | ⟨answer, -, hcommand⟩
  · refine ⟨answers, ?_⟩
    unfold answers?
    rw [hreply]
  · exact absurd hstep hcommand

end Container

theorem versionOf_isInternal {container : Container} {answer : Command} {e : ClientError}
    (hanswer : container.answer? = some answer) (h : versionOf container = .error e) :
    e.isInternal = false := by
  rcases Query.versionOf_eq_error h with ⟨hnone, -⟩ | ⟨_, rfl⟩ | ⟨_, rfl⟩
  · rw [hanswer] at hnone
    cases hnone
  · rfl
  · rfl

theorem ReadQuery.Rejects.isInternal_eq_false {q : ReadQuery} {container : Container}
    {answer : Command} {e : ClientError} (h : q.Rejects container e)
    (hanswer : container.answer? = some answer) : e.isInternal = false := by
  cases h with
  | noAnswer h =>
    rw [hanswer] at h
    cases h
  | _ => rfl

/-- A query that takes the container which acknowledges its own command finds there what it expects,
or something that the simulator is to blame for. -/
theorem Query.effectOf_isInternal {q : Query} {cells : Cells} {command : Command}
    {container : Container} {e : ClientError} (hq : q.Standard)
    (hrequest : q.requests cells = .ok [command]) (hack : container.Acknowledges command)
    (hshaped : container.Shaped) (h : q.effectOf container = .error e) : e.isInternal = false := by
  obtain ⟨command', heq, hasks⟩ := Query.asks_of_requests hq hrequest
  cases heq
  cases q with
  | read q =>
    obtain ⟨-, hreturns, hstep⟩ := hq
    rw [← hasks.1] at hreturns hstep
    obtain ⟨answer, hanswer⟩ := hshaped.answer?_eq_some hack hreturns hstep
    have hrejects := ReadQuery.valueOf_eq_error_iff.mp (Except.map_eq_error_iff.mp h)
    exact hrejects.isInternal_eq_false hanswer
  | change q =>
    rw [effectOf, Status.accept, hack.2] at h
    cases h
  | step cell =>
    obtain ⟨answers, hanswers⟩ := hshaped.answers?_eq_some hack hasks.1
    rw [effectOf, hanswers] at h
    cases h
  | version cell =>
    cases hasks
    obtain ⟨answer, hanswer⟩ := hshaped.answer?_eq_some hack (by decide) (by decide)
    exact versionOf_isInternal hanswer (Except.map_eq_error_iff.mp h)
  | close => cases h
  | raw => exact hq.elim

/-! ### The batch -/

/-- A batch of queries that are ready to be sent never fails by the client's own fault. -/
theorem BatchFailure.isInternal_eq_false {σ : Type} [Link σ] [HonestLink σ] {queries : List Query}
    {c : Client σ} {e : ClientError} {memory : Memory} (h : BatchFailure queries c e memory)
    (hstd : ∀ q ∈ queries, q.Standard) (hready : ∀ q ∈ queries, q.Ready c.memory.cells) :
    e.isInternal = false := by
  cases h with
  | unsent h => exact h.isInternal_eq_false hready
  | lost h => exact HonestLink.isInternal_eq_false h
  | rejected htransact h => exact checkedContainers_isInternal h
  | stuck hsplit htakes hrequest hanswer hshaped h =>
    have hmem := hsplit ▸ List.mem_append_right _ List.mem_cons_self
    exact Query.effectOf_isInternal (hstd _ hmem) hrequest hanswer hshaped h

end TrafficControl
