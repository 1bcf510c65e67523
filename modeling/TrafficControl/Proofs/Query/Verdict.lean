import TrafficControl.Proofs.Query.Inversion

/-!
# What becomes of a batch

What becomes of a batch of built-in queries is decided by the commands that its queries make and by the
link, and by nothing else that the client remembers. The `Verdict` says it: how the batch ends, the
effects of the queries that have had their turn by then, the link afterwards, and whether a round trip
was completed. Running the batch is carrying out its verdict (`Action.dispatch_eq_verdict`).
-/

namespace TrafficControl

/-- What becomes of a batch. -/
structure Verdict (σ : Type) where
  outcome : Except ClientError Unit
  /-- What there is to remember. -/
  effects : List Effect := []
  link : σ
  /-- The round trips that were completed. -/
  trips : Nat := 0

namespace Verdict

variable {σ : Type}

/-- What a client remembers once the verdict is carried out. -/
def remembered (v : Verdict σ) (m : Memory) : Memory := m.mapCells (Effect.applyAll v.effects)

/-- The client once the verdict is carried out. -/
def client (v : Verdict σ) (c : Client σ) : Client σ :=
  ⟨v.link, c.roundTrips + v.trips, v.remembered c.memory⟩

/-- Carries the verdict out. -/
def carryOut (v : Verdict σ) : Action σ Unit := fun c =>
  match v.outcome with
  | .ok () => .ok () (v.client c)
  | .error e => .error e (v.client c)

end Verdict

/-- How queries fare with the containers at their places, and the effects of those that have had their
turn. -/
def fare : List Query → List Container → Except ClientError Unit × List Effect
  | [], _ => (.ok (), [])
  | _ :: _, [] => (.error (.broken .noAnswerLeft), [])
  | q :: queries, container :: containers =>
    match q.effectOf container with
    | .error e => (.error e, [])
    | .ok e => ((fare queries containers).1, e :: (fare queries containers).2)

/-- Queries that take their containers fare as they do. -/
theorem takeAll_eq_fare {queries : List Query} (hlib : ∀ q ∈ queries, q.BuiltIn)
    (containers : List Container) (consumed : Nat) (cells : Cells) :
    ∃ i : Intake, i.cells = Effect.applyAll (fare queries containers).2 cells ∧
      takeAll queries { pending := containers, consumed, cells } =
        match (fare queries containers).1 with
        | .ok () => .ok () i
        | .error e => .error e i := by
  induction queries generalizing containers consumed cells with
  | nil => exact ⟨_, rfl, rfl⟩
  | cons q queries ih =>
    obtain ⟨hq, hqueries⟩ := List.forall_mem_cons.mp hlib
    rw [takeAll_cons]
    cases containers with
    | nil => exact ⟨_, rfl, EStateM.bind_of_error (Query.consume_of_nothing hq consumed cells)⟩
    | cons container containers =>
      rcases heffect : q.effectOf container with e | e
      · simp only [fare, heffect]
        exact ⟨_, rfl, EStateM.bind_of_error (Query.consume_of_failure hq heffect)⟩
      · obtain ⟨i, hcells, htake⟩ := ih hqueries containers (consumed + 1) (e.apply cells)
        simp only [fare, heffect]
        exact ⟨i, hcells, (EStateM.bind_of_ok (Query.consume_of_effect hq heffect)).trans htake⟩

/-- Queries that fare well have each made something of their container. -/
theorem takes_of_fare {queries : List Query} {containers : List Container}
    (h : (fare queries containers).1 = .ok ()) (hlen : queries.length = containers.length) :
    Takes queries containers (fare queries containers).2 := by
  induction queries generalizing containers with
  | nil =>
    obtain rfl : containers = [] := List.eq_nil_of_length_eq_zero hlen.symm
    exact .nil
  | cons q queries ih =>
    cases containers with
    | nil => cases hlen
    | cons container containers =>
      rcases heffect : q.effectOf container with e | e
      · simp only [fare, heffect] at h
        cases h
      · simp only [fare, heffect] at h ⊢
        exact .cons heffect (ih h (Nat.succ.inj hlen))

/-- Queries that have each made something of their container fare well. -/
theorem fare_of_takes {queries : List Query} {containers : List Container} {effects : List Effect}
    (h : Takes queries containers effects) : fare queries containers = (.ok (), effects) := by
  induction h with
  | nil => rfl
  | cons heffect _ ih => simp only [fare, heffect, ih]

/-- Only reads keep values. -/
theorem read_of_fare {queries : List Query} {containers : List Container} {cell : Cell} {v : Value}
    (h : .kept cell v ∈ (fare queries containers).2) : ∃ q, .read q ∈ queries ∧ q.cell = cell := by
  induction queries generalizing containers with
  | nil => cases h
  | cons q queries ih =>
    cases containers with
    | nil => cases h
    | cons container containers =>
      rcases heffect : q.effectOf container with e | e
      · simp only [fare, heffect] at h
        cases h
      · simp only [fare, heffect] at h
        rcases List.mem_cons.mp h with rfl | hmem
        · obtain ⟨r, rfl, hcell, -⟩ := Query.carries_of_kept heffect
          exact ⟨r, List.mem_cons_self, hcell⟩
        · obtain ⟨r, hr, hcell⟩ := ih hmem
          exact ⟨r, List.mem_cons_of_mem q hr, hcell⟩

namespace Action

variable {σ : Type} [Link σ]

/-- What becomes of queries that make these commands, on a link. -/
def verdict (queries : List Query) (made : Except ClientError (List (List Command))) (link : σ) :
    Verdict σ :=
  match made with
  | .error e => { outcome := .error e, link }
  | .ok requests =>
    if requests.flatten.isEmpty then { outcome := .ok (), link }
    else
      match Request.encode requests.flatten with
      | .error e => { outcome := .error (.framing e), link }
      | .ok frame =>
        match Link.transact frame link with
        | .error e link => { outcome := .error e, link }
        | .ok reply link =>
          match checkedContainers requests.flatten reply with
          | .error e => { outcome := .error e, link, trips := 1 }
          | .ok containers =>
            { outcome := (fare queries containers).1, effects := (fare queries containers).2, link,
              trips := 1 }

section

variable {queries : List Query} {cells : Cells} {requests : List (List Command)}

theorem verdict_of_sends {frame : Bytes} (h : Sends cells queries requests frame) (link : σ) :
    verdict queries (batchRequests cells queries) link =
      match Link.transact frame link with
      | .error e link => { outcome := .error e, link }
      | .ok reply link =>
        match checkedContainers requests.flatten reply with
        | .error e => { outcome := .error e, link, trips := 1 }
        | .ok containers =>
          { outcome := (fare queries containers).1, effects := (fare queries containers).2, link,
            trips := 1 } := by
  rw [batchRequests_of_makes h.made, verdict]
  simp only [List.isEmpty_iff, h.nonempty, if_false, h.framed]

theorem verdict_of_silent (hmade : Makes cells queries requests) (hempty : requests.flatten = []) (link : σ) :
    verdict queries (batchRequests cells queries) link = { outcome := .ok (), link } := by
  rw [batchRequests_of_makes hmade, verdict]
  simp only [hempty, List.isEmpty_nil, if_true]

theorem verdict_of_unsent {e : ClientError} (h : Unsent cells queries e) (link : σ) :
    verdict queries (batchRequests cells queries) link = { outcome := .error e, link } := by
  cases h with
  | unmade hsplit hearlier h =>
    rw [hsplit, batchRequests_of_unmade hearlier h]
    rfl
  | @unframed requests e hmade h =>
    rw [batchRequests_of_makes hmade, verdict]
    have hne : requests.flatten ≠ [] := by
      intro hempty
      rw [hempty] at h
      cases h
    simp only [List.isEmpty_iff, hne, if_false, h]

end

/-- Running a batch of built-in queries is carrying out its verdict. -/
theorem dispatch_eq_verdict {queries : List Query} (hlib : ∀ q ∈ queries, q.BuiltIn) (c : Client σ) :
    dispatch queries c =
      (verdict queries (batchRequests c.memory.cells queries) c.link).carryOut c := by
  rcases sends_or_not c.memory.cells queries with
    ⟨requests, frame, hsends⟩ | ⟨requests, hmade, hempty⟩ | ⟨e, hunsent⟩
  · rw [verdict_of_sends hsends]
    rcases htransact : Link.transact frame c.link with ⟨reply, link⟩ | ⟨e, link⟩
    · dsimp only
      rw [dispatch_of_answered hsends htransact]
      rcases hchecked : checkedContainers requests.flatten reply with e | containers
      · rw [settle_of_unchecked queries _ hchecked]
        rfl
      · rw [settle_of_acknowledged (c := { c with link, roundTrips := c.roundTrips + 1 }) hsends.made
          hlib (checkedContainers_eq_ok_iff.mp hchecked), consume, consumeAll_eq_takeAll hlib]
        obtain ⟨i, hcells, htake⟩ := takeAll_eq_fare hlib containers 0 c.memory.cells
        rw [htake]
        simp only [Verdict.carryOut, Verdict.client, Verdict.remembered, Memory.mapCells, ← hcells]
        rcases (fare queries containers).1 with e | ⟨⟩ <;> rfl
    · rw [dispatch_of_lost hsends htransact]
      rfl
  · rw [dispatch_of_silent hmade hempty, verdict_of_silent hmade hempty]
    rfl
  · rw [dispatch_of_unsent hunsent, verdict_of_unsent hunsent]
    rfl

/-- A batch of which something is remembered has had a frame, and what is remembered is what its queries have
made of the containers. -/
theorem effects_of_verdict {queries : List Query} {cells : Cells} {link : σ} {e : Effect}
    (h : e ∈ (verdict queries (batchRequests cells queries) link).effects) :
    ∃ requests frame containers, Sends cells queries requests frame ∧ e ∈ (fare queries containers).2 := by
  rcases sends_or_not cells queries with
    ⟨requests, frame, hsends⟩ | ⟨requests, hmade, hempty⟩ | ⟨e', hunsent⟩
  · rw [verdict_of_sends hsends] at h
    rcases htransact : Link.transact frame link with ⟨reply, link'⟩ | ⟨e', link'⟩
    · simp only [htransact] at h
      rcases hchecked : checkedContainers requests.flatten reply with e' | containers
      · simp only [hchecked] at h
        cases h
      · simp only [hchecked] at h
        exact ⟨requests, frame, containers, hsends, h⟩
    · simp only [htransact] at h
      cases h
  · rw [verdict_of_silent hmade hempty] at h
    cases h
  · rw [verdict_of_unsent hunsent] at h
    cases h

/-- What is remembered after a batch, however it ends. -/
theorem memory_of_dispatch {queries : List Query} (hlib : ∀ q ∈ queries, q.BuiltIn) (c : Client σ) :
    ((dispatch queries).after c).memory =
      (verdict queries (batchRequests c.memory.cells queries) c.link).remembered c.memory := by
  unfold after
  rw [dispatch_eq_verdict hlib, Verdict.carryOut]
  cases (verdict queries (batchRequests c.memory.cells queries) c.link).outcome <;> rfl

/-- A batch that does well has got a reply, unless it has nothing to ask, and its effects are what its
queries make of the containers of that reply. -/
theorem takes_of_verdict {queries : List Query} (hlib : ∀ q ∈ queries, q.BuiltIn) {cells : Cells}
    {link : σ} (h : (verdict queries (batchRequests cells queries) link).outcome = .ok ()) :
    ∃ containers, Takes queries containers (verdict queries (batchRequests cells queries) link).effects ∧
      (queries ≠ [] → ∃ requests frame reply link', Sends cells queries requests frame ∧
        Link.transact frame link = .ok reply link' ∧ Response.decode reply = .ok containers) := by
  rcases sends_or_not cells queries with
    ⟨requests, frame, hsends⟩ | ⟨requests, hmade, hempty⟩ | ⟨e, hunsent⟩
  · rw [verdict_of_sends hsends] at h ⊢
    rcases htransact : Link.transact frame link with ⟨reply, link'⟩ | ⟨e, link'⟩
    · simp only [htransact] at h ⊢
      rcases hchecked : checkedContainers requests.flatten reply with e | containers
      · simp only [hchecked] at h
        cases h
      · simp only [hchecked] at h ⊢
        have hreply := checkedContainers_eq_ok_iff.mp hchecked
        refine ⟨containers, takes_of_fare h (hreply.length_eq hsends.made hlib), fun _ => ?_⟩
        exact ⟨requests, frame, reply, link', hsends, htransact, hreply.1⟩
    · simp only [htransact] at h
      cases h
  · obtain rfl := hmade.eq_nil hlib hempty
    exact ⟨[], .nil, fun hne => absurd rfl hne⟩
  · rw [verdict_of_unsent hunsent] at h
    cases h

/-- A batch that succeeds remembers what its queries make of the containers of its reply. -/
theorem dispatch_eq_ok_of_reply {queries : List Query} (hlib : ∀ q ∈ queries, q.BuiltIn)
    (hne : queries ≠ []) {c c' : Client σ} (h : dispatch queries c = .ok () c') :
    ∃ requests frame reply link containers effects, Sends c.memory.cells queries requests frame ∧
      Link.transact frame c.link = .ok reply link ∧ Response.decode reply = .ok containers ∧
      Takes queries containers effects ∧ c'.memory = c.memory.mapCells (Effect.applyAll effects) := by
  rw [dispatch_eq_verdict hlib, Verdict.carryOut] at h
  rcases houtcome : (verdict queries (batchRequests c.memory.cells queries) c.link).outcome with e | ⟨⟩
  · rw [houtcome] at h
    cases h
  · rw [houtcome] at h
    cases h
    obtain ⟨containers, htakes, hreply⟩ := takes_of_verdict hlib houtcome
    obtain ⟨requests, frame, reply, link, hsends, htransact, hdecode⟩ := hreply hne
    exact ⟨requests, frame, reply, link, containers, _, hsends, htransact, hdecode, htakes, rfl⟩

/-- A query on its own remembers nothing if it fails. -/
theorem memory_of_single_error {q : Query} (hq : q.BuiltIn) {c c' : Client σ} {e : ClientError}
    (h : dispatch [q] c = .error e c') : c'.memory = c.memory := by
  have hfail := dispatch_eq_error (List.forall_mem_singleton.mpr hq) h
  generalize c'.memory = m at hfail
  cases hfail with
  | unsent | lost | rejected => rfl
  | @stuck earlier later q' taken effects command container e hsplit htakes hrequest hanswer hshaped h =>
    -- there is nothing in front of the only query
    obtain rfl : earlier = [] := by
      cases earlier with
      | nil => rfl
      | cons q'' earlier => simp at hsplit
    cases htakes
    rfl

/-- A read on its own that succeeds keeps the value that the one container of its reply carries. -/
theorem dispatch_read_eq_ok {q : ReadQuery} {c c' : Client σ} (h : dispatch [.read q] c = .ok () c') :
    ∃ requests frame reply link container v, Sends c.memory.cells [.read q] requests frame ∧
      Link.transact frame c.link = .ok reply link ∧ Response.decode reply = .ok [container] ∧
      q.Carries container v ∧ c'.memory = c.memory.mapCells (·.keep q.cell v) := by
  have hlib : ∀ p ∈ [Query.read q], p.BuiltIn := List.forall_mem_singleton.mpr trivial
  obtain ⟨requests, frame, reply, link, containers, effects, hsends, htransact, hdecode, htakes,
    hmemory⟩ := dispatch_eq_ok_of_reply hlib (List.cons_ne_nil _ _) h
  cases htakes with | cons heffect hrest => ?_
  cases hrest
  obtain ⟨v, rfl, hcarries⟩ := Query.effectOf_read_eq_ok heffect
  exact ⟨requests, frame, reply, link, _, v, hsends, htransact, hdecode, hcarries, hmemory⟩

end Action

/-! ### Changes -/

namespace ChangeQuery

variable {σ : Type} [Link σ] {q : ChangeQuery} {v : Value} {c c' : Client σ}

/-- A client that has set the value of a change. -/
def given (q : ChangeQuery) (v : Value) (c : Client σ) : Client σ :=
  { c with memory := c.memory.mapCells (·.setChange q.cell v) }

/-- A change that fails has put nothing out of date. -/
theorem memory_of_error {e : ClientError} (h : q.runWith v c = .error e c') :
    c'.memory = (q.given v c).memory :=
  Action.memory_of_single_error (q := .change q) trivial h

/-- A change that succeeds has put out of date what it declares. -/
theorem memory_of_ok (h : q.runWith v c = .ok () c') :
    c'.memory = (q.given v c).memory.mapCells (·.forgetAll q.outdates) := by
  have hlib : ∀ p ∈ [Query.change q], p.BuiltIn := List.forall_mem_singleton.mpr trivial
  obtain ⟨containers, effects, htakes, hmemory⟩ := Action.dispatch_eq_ok hlib h
  cases htakes with | cons heffect hrest => ?_
  cases hrest
  obtain ⟨_, -, rfl⟩ := Except.map_eq_ok_iff.mp heffect
  exact hmemory

end ChangeQuery

end TrafficControl
