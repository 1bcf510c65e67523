import TrafficControl.Proofs.Client.Outcome
import TrafficControl.Proofs.Query.Unsent

/-!
# Fetching the answer to a read

A read that remembers an answer gives it and leaves the client alone. Otherwise it makes a batch of its
own: the link is called once with the frame of that batch, or, if there is no frame, not at all. The
calls are counted by a link that writes them down (`Tapped`).

* `ReadQuery.get_of_cached`, `ReadQuery.getAs_of_cached`: an answer that is remembered.
* `ReadQuery.get_of_unsent`: a read without a frame, such as one that lacks the parameter it needs.
* `ReadQuery.requests_of_get`: a read with a frame.
-/

namespace TrafficControl

/-! ### Links that write down what they carry -/

/-- A link, and the requests that it was called with, the latest last. -/
structure Tapped (σ : Type) where
  link : σ
  requests : List Bytes := []

instance {σ : Type} [Link σ] : Link (Tapped σ) where
  transact request := fun l =>
    match Link.transact request l.link with
    | .ok reply link => .ok reply ⟨link, l.requests ++ [request]⟩
    | .error e link => .error e ⟨link, l.requests ++ [request]⟩

namespace Action

variable {σ α β : Type}

theorem requests_of_transact [Link σ] (request : Bytes) (c : Client (Tapped σ)) :
    ((transact request : Action (Tapped σ) Bytes).after c).link.requests =
      c.link.requests ++ [request] := by
  unfold after transact
  simp only [Link.transact]
  cases Link.transact request c.link.link <;> rfl

/-- What only looks at the client leaves it as it was before. -/
theorem after_bind_of_still {x : Action σ α} {f : α → Action σ β}
    (h : ∀ a c, (f a).after c = c) (c : Client σ) : (x >>= f).after c = x.after c := by
  rcases hx : x c with ⟨a, c₁⟩ | ⟨e, c₁⟩
  · have hlast : (x >>= f).after c = (f a).after c₁ := by
      unfold after
      rw [EStateM.bind_of_ok hx]
    rw [hlast, h, after_of_ok hx]
  · rw [after_of_error (EStateM.bind_of_error hx), after_of_error hx]

theorem after_ofExcept (r : Except ClientError α) (c : Client σ) :
    (ofExcept r : Action σ α).after c = c := by
  cases r <;> rfl

/-! ### The link after a batch -/

variable {queries : List Query} {c : Client σ} {requests : List (List Command)} {frame : Bytes}

/-- Nothing is sent while a reply is looked at. -/
theorem link_of_settle (queries : List Query) (requests : List (List Command)) (reply : Bytes)
    (c : Client σ) : ((settle queries requests reply).after c).link = c.link := by
  unfold settle
  rcases checkedContainers requests.flatten reply with e | containers
  · rfl
  · show ((consume _ containers).after c).link = c.link
    unfold after consume
    cases consumeAll (queries.zip (requests.map List.length))
      { pending := containers, cells := c.memory.cells } <;> rfl

/-- A batch that has a frame calls the link with the frame, and not a second time. -/
theorem link_of_sends [Link σ] (h : Sends c.memory.cells queries requests frame) :
    ((dispatch queries).after c).link = ((transact frame : Action σ Bytes).after c).link := by
  rcases htransact : Link.transact frame c.link with ⟨reply, link⟩ | ⟨e, link⟩
  · have hsent : (transact frame : Action σ Bytes) c = .ok reply { c with link } := by
      unfold transact
      rw [htransact]
    have hlast : (dispatch queries).after c = (settle queries requests reply).after
        { c with link, roundTrips := c.roundTrips + 1 } := by
      unfold after
      rw [dispatch_of_answered h htransact]
    rw [hlast, link_of_settle, after_of_ok hsent]
  · have hfail : (transact frame : Action σ Bytes) c = .error e { c with link } := by
      unfold transact
      rw [htransact]
    rw [after_of_error (dispatch_of_lost h htransact), after_of_error hfail]

end Action

/-! ### The frame of a read -/

namespace ReadQuery

variable {q : ReadQuery} {cells : Cells}

theorem sends_of_request {command : Command} {frame : Bytes}
    (h : q.request cells = .ok command) (hframe : Request.encode [command] = .ok frame) :
    Sends cells [.read q] [[command]] frame where
  made := by
    refine .cons ?_ .nil
    rw [Query.requests, h]
    rfl
  nonempty := List.cons_ne_nil _ _
  framed := hframe

/-- A read has no frame if it has no command, or one that does not fit. -/
def Unframed (q : ReadQuery) (cells : Cells) (e : ClientError) : Prop :=
  q.request cells = .error e ∨
    ∃ command e', q.request cells = .ok command ∧ Request.encode [command] = .error e' ∧
      e = .framing e'

theorem Unframed.unsent {e : ClientError} (h : q.Unframed cells e) :
    Unsent cells [.read q] e := by
  rcases h with h | ⟨command, e', h, hframe, rfl⟩
  · have hrequests : (Query.read q).requests cells = .error e := by
      rw [Query.requests, h]
      rfl
    have hsplit : [Query.read q] = [] ++ Query.read q :: [] := rfl
    exact .unmade hsplit .nil hrequests
  · have hrequests : (Query.read q).requests cells = .ok [command] := by
      rw [Query.requests, h]
      rfl
    exact .unframed (.cons hrequests .nil) hframe

/-- A read that lacks the parameter it needs has no command. That is what is reported, unless not even
the name of the object can be written. -/
theorem request_of_missing (hneeds : q.needsParameter = true)
    (hnone : cells.parameters[q.cell]? = none) :
    ∃ e, q.request cells = .error e ∧ ((Utf8.bytes q.object).length < Emission.countBound →
      e = .missingParameter q.object q.code) := by
  by_cases hobject : (Count.elements (Utf8.bytes q.object).length).Fits
  · have hlacks : Query.Lacks cells (.read q) _ := .parameter hneeds hnone hobject
    exact ⟨_, (request_of_no_parameter hnone).mpr (.inl hlacks), fun _ => rfl⟩
  · have hexcess : Count.firstExcess (variableCounts q.object []) = some _ :=
      (Count.firstExcess_singleton _).trans (if_neg hobject)
    refine ⟨_, (request_of_no_parameter hnone).mpr (.inr ⟨_, hexcess, rfl⟩), fun hlt => ?_⟩
    exact absurd (Nat.le_of_lt_succ hlt) hobject

/-! ### Getting the answer -/

section
variable {σ : Type} [Link σ] {c : Client σ}

/-- An answer that is remembered is given, and the client is left alone. -/
theorem get_of_cached {v : Value} (h : q.cached? c.memory.cells = some v) : q.get c = .ok v c := by
  rw [get, EStateM.bind_of_ok (x := Action.memory) rfl, h]
  rfl

theorem getAs_of_cached (α : Type) [Readable α] {v : Value} (h : q.cached? c.memory.cells = some v) :
    q.getAs α c = Action.ofExcept (Readable.ofValue v) c := by
  rw [getAs, EStateM.bind_of_ok (get_of_cached h)]

/-- What a read gives once its batch has succeeded. -/
def remembered (q : ReadQuery) : Action σ Value := fun c =>
  match q.cached? c.memory.cells with
  | some v => .ok v c
  | none => .error (.broken (.discarded q.code q.object)) c

omit [Link σ] in
theorem after_remembered (q : ReadQuery) (c : Client σ) : q.remembered.after c = c := by
  unfold Action.after remembered
  cases q.cached? c.memory.cells <;> rfl

/-- A read that remembers nothing makes a batch of its own. -/
theorem get_of_empty (h : q.cached? c.memory.cells = none) :
    q.get c = (do Action.dispatch [.read q]; q.remembered : Action σ Value) c := by
  rw [get, EStateM.bind_of_ok (x := Action.memory) rfl, h]
  dsimp only
  rcases hdispatch : Action.dispatch [.read q] c with ⟨u, c₁⟩ | ⟨e, c₁⟩
  · rw [EStateM.bind_of_ok hdispatch, EStateM.bind_of_ok hdispatch,
      EStateM.bind_of_ok (x := Action.memory) rfl, remembered]
    cases q.cached? c₁.memory.cells <;> rfl
  · rw [EStateM.bind_of_error hdispatch, EStateM.bind_of_error hdispatch]

/-- Without a frame a read reports why, and the client is left alone. -/
theorem get_of_unsent {e : ClientError} (h : q.cached? c.memory.cells = none)
    (hunsent : Unsent c.memory.cells [.read q] e) : q.get c = .error e c := by
  rw [get_of_empty h, EStateM.bind_of_error (Action.dispatch_of_unsent hunsent)]

/-- A read that remembers nothing leaves what its batch leaves. -/
theorem after_get_of_empty (h : q.cached? c.memory.cells = none) :
    q.get.after c = (Action.dispatch [.read q]).after c := by
  have hget : q.get.after c =
      (do Action.dispatch [.read q]; q.remembered : Action σ Value).after c := by
    unfold Action.after
    rw [get_of_empty h]
  rw [hget, Action.after_bind_of_still (fun _ => q.after_remembered)]

theorem after_get_of_cached {v : Value} (h : q.cached? c.memory.cells = some v) :
    q.get.after c = c :=
  Action.after_of_ok (get_of_cached h)

/-- What the answer is read as makes no difference to the client. -/
theorem after_getAs (α : Type) [Readable α] (q : ReadQuery) (c : Client σ) :
    (q.getAs α).after c = q.get.after c :=
  Action.after_bind_of_still (fun _ _ => Action.after_ofExcept _ _) c

/-- The answer that was given is remembered. -/
theorem cached_of_get {v : Value} {c' : Client σ} (h : q.get c = .ok v c') :
    q.cached? c'.memory.cells = some v := by
  rcases hcached : q.cached? c.memory.cells with _ | v'
  · rw [get_of_empty hcached] at h
    obtain ⟨_, c₁, -, hremembered⟩ := EStateM.bind_eq_ok_iff.mp h
    unfold remembered at hremembered
    split at hremembered
    · next v' hv' =>
      cases hremembered
      exact hv'
    · cases hremembered
  · rw [get_of_cached hcached] at h
    cases h
    exact hcached

/-- A read that remembers nothing and has a frame calls the link once, with the frame. -/
theorem requests_of_get {c : Client (Tapped σ)} {command : Command} {frame : Bytes}
    (h : q.cached? c.memory.cells = none) (hrequest : q.request c.memory.cells = .ok command)
    (hframe : Request.encode [command] = .ok frame) :
    (q.get.after c).link.requests = c.link.requests ++ [frame] := by
  rw [after_get_of_empty h, Action.link_of_sends (sends_of_request hrequest hframe),
    Action.requests_of_transact]

end

end ReadQuery

end TrafficControl
