import TrafficControl.Proofs.Protocol.MessageGrammar
import TrafficControl.Proofs.Query.Ending

/-!
# What a batch has done, from how it ended

A batch of built-in queries that succeeds has remembered the effects of all its queries. One that fails
did so at a known stage, which is where its failure comes from, and has remembered the effects of the
queries that came before it.
-/

namespace TrafficControl

variable {σ : Type} [Link σ] {queries : List Query}

/-- Where the failure of a batch comes from, and what is remembered then. -/
inductive BatchFailure (queries : List Query) (c : Client σ) : ClientError → Memory → Prop
  /-- The frame could not be made. -/
  | unsent {e : ClientError} (h : Unsent c.memory.cells queries e) : BatchFailure queries c e c.memory
  /-- The round trip failed. -/
  | lost {frame : Bytes} {e : ClientError} {link : σ}
      (h : Link.transact frame c.link = .error e link) : BatchFailure queries c e c.memory
  /-- The reply did not pass the checks. -/
  | rejected {frame reply : Bytes} {commands : List Command} {e : ClientError} {link : σ}
      (htransact : Link.transact frame c.link = .ok reply link)
      (h : checkedContainers commands reply = .error e) : BatchFailure queries c e c.memory
  /-- A query could make nothing of the container that acknowledges its command. -/
  | stuck {earlier later : List Query} {q : Query} {taken : List Container} {effects : List Effect}
      {command : Command} {container : Container} {e : ClientError}
      (hsplit : queries = earlier ++ q :: later) (htakes : Takes earlier taken effects)
      (hrequest : q.requests c.memory.cells = .ok [command])
      (hanswer : container.Acknowledges command) (hshaped : container.Shaped)
      (h : q.effectOf container = .error e) :
      BatchFailure queries c e { c.memory with cells := Effect.applyAll effects c.memory.cells }

namespace Action

variable {c c' : Client σ} {requests : List (List Command)} {frame reply : Bytes} {link : σ}

omit [Link σ] in
/-- A reply that does not pass the checks is not handed out. -/
theorem settle_of_unchecked {e : ClientError} (queries : List Query) (c : Client σ)
    (h : checkedContainers requests.flatten reply = .error e) :
    settle queries requests reply c = .error e c := by
  rw [settle, h]
  rfl

/-- A batch whose reply is good either remembers all effects, or some query is stuck. -/
theorem dispatch_cases_of_acknowledged {containers : List Container}
    (hlib : ∀ q ∈ queries, q.BuiltIn) (h : Sends c.memory.cells queries requests frame)
    (htransact : Link.transact frame c.link = .ok reply link)
    (hreply : Acknowledged requests.flatten reply containers) :
    (∃ effects c', dispatch queries c = .ok () c' ∧ Takes queries containers effects ∧
      c'.memory = { c.memory with cells := Effect.applyAll effects c.memory.cells }) ∨
    ∃ e c', dispatch queries c = .error e c' ∧ BatchFailure queries c e c'.memory := by
  have hdispatch := dispatch_of_acknowledged hlib h htransact hreply
  have hlen := hreply.length_eq h.made hlib
  rcases takes_or_stuck hlen with ⟨effects, htakes⟩ |
    ⟨earlier, q, later, taken, container, left, effects, e, rfl, rfl, htakes, hfail⟩
  · have hall := takeAll_of_takes htakes hlib [] 0 c.memory.cells
    rw [List.append_nil] at hall
    rw [hall] at hdispatch
    exact Or.inl ⟨effects, _, hdispatch, htakes, rfl⟩
  · obtain ⟨hearlier, hrest⟩ := List.forall_mem_append.mp hlib
    have hstuck := takeAll_of_stuck htakes hearlier (hrest q List.mem_cons_self) hfail later left 0
      c.memory.cells
    rw [hstuck] at hdispatch
    have hq : (earlier ++ q :: later)[earlier.length]? = some q := by simp
    have hat : (taken ++ container :: left)[earlier.length]? = some container := by
      rw [htakes.length_eq.1]
      simp
    obtain ⟨command, hcommand, hrequest⟩ := h.made.command_at hlib hq
    refine Or.inr ⟨e, _, hdispatch, ?_⟩
    exact .stuck rfl htakes hrequest (hreply.acknowledges_at hat hcommand)
      (Response.shaped_of_decode hreply.1 container (by simp)) hfail

/-- A batch of built-in queries remembers the effects of all its queries, or fails for a known
reason. -/
theorem dispatch_cases (hlib : ∀ q ∈ queries, q.BuiltIn) (c : Client σ) :
    (∃ containers effects c', dispatch queries c = .ok () c' ∧ Takes queries containers effects ∧
      c'.memory = { c.memory with cells := Effect.applyAll effects c.memory.cells }) ∨
    ∃ e c', dispatch queries c = .error e c' ∧ BatchFailure queries c e c'.memory := by
  rcases sends_or_not c.memory.cells queries with
    ⟨requests, frame, hsends⟩ | ⟨requests, hmade, hempty⟩ | ⟨e, hunsent⟩
  · rcases htransact : Link.transact frame c.link with ⟨reply, link⟩ | ⟨e, link⟩
    · rcases hcheck : checkedContainers requests.flatten reply with e | containers
      · have hdispatch := (dispatch_of_answered hsends htransact).trans
          (settle_of_unchecked queries _ hcheck)
        exact Or.inr ⟨e, _, hdispatch, .rejected htransact hcheck⟩
      · have hreply := checkedContainers_eq_ok_iff.mp hcheck
        rcases dispatch_cases_of_acknowledged hlib hsends htransact hreply with
          ⟨effects, c', hok⟩ | hfail
        · exact Or.inl ⟨containers, effects, c', hok⟩
        · exact Or.inr hfail
    · exact Or.inr ⟨e, _, dispatch_of_lost hsends htransact, .lost htransact⟩
  · obtain rfl := hmade.eq_nil hlib hempty
    exact Or.inl ⟨[], [], c, dispatch_of_silent hmade hempty, .nil, rfl⟩
  · exact Or.inr ⟨e, c, dispatch_of_unsent hunsent, .unsent hunsent⟩

theorem dispatch_eq_ok (hlib : ∀ q ∈ queries, q.BuiltIn) (h : dispatch queries c = .ok () c') :
    ∃ containers effects, Takes queries containers effects ∧
      c'.memory = { c.memory with cells := Effect.applyAll effects c.memory.cells } := by
  rcases dispatch_cases hlib c with ⟨containers, effects, c₁, hok, htakes, hmemory⟩ | ⟨e, c₁, hfail, -⟩
  · rw [h] at hok
    cases hok
    exact ⟨containers, effects, htakes, hmemory⟩
  · rw [h] at hfail
    cases hfail

theorem dispatch_eq_error (hlib : ∀ q ∈ queries, q.BuiltIn) {e : ClientError}
    (h : dispatch queries c = .error e c') : BatchFailure queries c e c'.memory := by
  rcases dispatch_cases hlib c with ⟨containers, effects, c₁, hok, -⟩ | ⟨e', c₁, hfail, hreason⟩
  · rw [h] at hok
    cases hok
  · rw [h] at hfail
    cases hfail
    exact hreason

end Action

/-! ### What holds of effects -/

/-- What holds of the effects that the queries of a batch may have, and of nothing to start with, holds
of what is remembered after them. -/
theorem Takes.induction {P : Cells → Prop} {containers : List Container} {effects : List Effect}
    (h : Takes queries containers effects)
    (hstep : ∀ q ∈ queries, ∀ container e, q.effectOf container = .ok e → ∀ cells, P cells →
      P (e.apply cells))
    {cells : Cells} (hstart : P cells) : P (Effect.applyAll effects cells) := by
  induction h generalizing cells with
  | nil => exact hstart
  | cons heffect _ ih =>
    obtain ⟨hfirst, hrest⟩ := List.forall_mem_cons.mp hstep
    exact ih hrest (hfirst _ _ heffect cells hstart)

end TrafficControl
