import TrafficControl.Proofs.Query.Ending
import TrafficControl.Proofs.Query.Fetching
import TrafficControl.Proofs.Query.Slots
import TrafficControl.Traffic.Observer

/-!
# What a read remembers is not out of date

Reads are fetched one by one and in batches, they are told to forget what they remember, changes put
them out of date, and they are given parameters, in any order and over any link.
`SlotRun reads history c` says that a client `c` is reached in this way, where `history` lists what has happened to the reads.

* `Coherent.dispatch`: a batch keeps what is remembered coherent, however it ends.
* `SlotRun.coherent`: what is remembered is coherent throughout.
* `slots_coherent`: with what setting a parameter and getting an answer do.
-/

namespace TrafficControl

/-! ### Batches -/

/-- What the queries of a batch make of their containers, up to the first that makes nothing of its
own. -/
def takings : List Query → List Command → List Container → List SlotEvent
  | q :: queries, command :: commands, container :: containers =>
    match q.effectOf container with
    | .ok _ => .took q command container :: takings queries commands containers
    | .error _ => []
  | _, _, _ => []

section
variable {σ : Type} [Link σ] {queries : List Query} {c : Client σ}

/-- What the queries of a batch make of the reply, if there is one that may be handed out. -/
def heard (queries : List Query) (c : Client σ) : List SlotEvent :=
  match batchRequests c.memory.cells queries with
  | .error _ => []
  | .ok requests =>
    match Request.encode requests.flatten with
    | .error _ => []
    | .ok frame =>
      match Link.transact frame c.link with
      | .error _ _ => []
      | .ok reply _ =>
        match checkedContainers requests.flatten reply with
        | .error _ => []
        | .ok containers => takings queries requests.flatten containers

theorem heard_of_sends {requests : List (List Command)} {frame : Bytes}
    (h : Sends c.memory.cells queries requests frame) :
    heard queries c =
      match Link.transact frame c.link with
      | .error _ _ => []
      | .ok reply _ =>
        match checkedContainers requests.flatten reply with
        | .error _ => []
        | .ok containers => takings queries requests.flatten containers := by
  rw [heard, batchRequests_of_makes h.made]
  dsimp only
  rw [h.framed]

theorem heard_of_unsent {e : ClientError} (h : Unsent c.memory.cells queries e) :
    heard queries c = [] := by
  unfold heard
  cases h with
  | unmade hsplit hearlier h => rw [hsplit, batchRequests_of_unmade hearlier h]
  | unframed hmade h =>
    rw [batchRequests_of_makes hmade]
    dsimp only
    rw [h]

theorem heard_nil (c : Client σ) : heard [] c = [] := by
  unfold heard
  split
  · rfl
  · split
    · rfl
    · split
      · rfl
      · split <;> rfl

end

namespace Coherent

variable {reads : Set ReadQuery} {history : List SlotEvent} {cells : Cells}

/-- Queries take their containers, each the one at the place of its command. -/
theorem takings (h : Coherent reads history cells) (hcells : Set.InjOn ReadQuery.cell reads)
    {queries : List Query} {commands : List Command} {containers : List Container} {asked : Cells}
    (hlib : ∀ q ∈ queries, q.BuiltIn) (hreads : ∀ r, .read r ∈ queries → r ∈ reads)
    (hcommands : List.Forall₂ (fun q command => q.requests asked = .ok [command]) queries commands)
    (hsame : asked.parameters = cells.parameters) (hlen : queries.length = containers.length)
    {consumed : Nat} {i : Intake}
    (hrun : takeAll queries { pending := containers, consumed, cells } = .ok () i ∨
      ∃ e, takeAll queries { pending := containers, consumed, cells } = .error e i) :
    Coherent reads (history ++ TrafficControl.takings queries commands containers) i.cells := by
  induction hcommands generalizing history cells containers consumed with
  | nil =>
    have hnone : history ++ TrafficControl.takings [] [] containers = history := List.append_nil _
    rw [hnone]
    rcases hrun with hrun | ⟨e, hrun⟩
    · cases hrun
      exact h
    · cases hrun
  | @cons q command queries commands hfirst _ ih =>
    obtain ⟨container, containers, rfl⟩ := List.exists_cons_of_length_eq_add_one hlen.symm
    obtain ⟨hq, hqueries⟩ := List.forall_mem_cons.mp hlib
    rw [takeAll_cons] at hrun
    rcases heffect : q.effectOf container with e | e
    · have hstuck : (do q.consume; takeAll queries : Consumer Unit)
          { pending := container :: containers, consumed, cells } =
          .error e { pending := containers, consumed := consumed + 1, cells } :=
        EStateM.bind_of_error (Query.consume_of_failure hq heffect)
      rw [hstuck] at hrun
      rw [TrafficControl.takings, heffect, List.append_nil]
      rcases hrun with hrun | ⟨e', hrun⟩
      · cases hrun
      · cases hrun
        exact h
    · have hasked : ∀ r, q = .read r →
          command.IsAbout r.command r.code r.object cells.parameters[r.cell]? := by
        rintro r rfl
        obtain ⟨_, hrequest, heq⟩ := Except.map_eq_ok_iff.mp hfirst
        cases heq
        rw [← hsame]
        exact Query.asks_of_read hrequest
      have htook := h.took hcells (fun r hr => hreads r (hr ▸ List.mem_cons_self)) hasked heffect
      rw [EStateM.bind_of_ok (Query.consume_of_effect hq heffect)] at hrun
      have hrest := ih htook hqueries (fun r hr => hreads r (List.mem_cons_of_mem q hr))
        (hsame.trans (e.parameters_apply cells).symm) (Nat.succ.inj hlen) hrun
      rw [TrafficControl.takings, heffect]
      rwa [List.append_assoc] at hrest

section
variable {σ : Type} [Link σ] {queries : List Query} {c : Client σ}

/-- A reply that is handed out keeps what is remembered coherent. -/
theorem dispatch_of_acknowledged (h : Coherent reads history c.memory.cells)
    (hcells : Set.InjOn ReadQuery.cell reads) (hlib : ∀ q ∈ queries, q.BuiltIn)
    (hreads : ∀ r, .read r ∈ queries → r ∈ reads) {requests : List (List Command)}
    {frame reply : Bytes} {link : σ} {containers : List Container}
    (hsends : Sends c.memory.cells queries requests frame)
    (htransact : Link.transact frame c.link = .ok reply link)
    (hreply : Acknowledged requests.flatten reply containers) :
    Coherent reads (history ++ TrafficControl.takings queries requests.flatten containers)
      ((Action.dispatch queries).after c).memory.cells := by
  have hcommands := hsends.made.forall₂_flatten hlib
  have hlen := hreply.length_eq hsends.made hlib
  have hdispatch := Action.dispatch_of_acknowledged hlib hsends htransact hreply
  rcases hrun : takeAll queries { pending := containers, cells := c.memory.cells } with
    ⟨u, i⟩ | ⟨e, i⟩
  · rw [hrun] at hdispatch
    rw [Action.after_of_ok hdispatch]
    exact h.takings hcells hlib hreads hcommands rfl hlen (Or.inl hrun)
  · rw [hrun] at hdispatch
    rw [Action.after_of_error hdispatch]
    exact h.takings hcells hlib hreads hcommands rfl hlen (Or.inr ⟨e, hrun⟩)

/-- Every batch of built-in queries keeps what is remembered coherent, however it ends. -/
theorem dispatch (h : Coherent reads history c.memory.cells)
    (hcells : Set.InjOn ReadQuery.cell reads) (hlib : ∀ q ∈ queries, q.BuiltIn)
    (hreads : ∀ r, .read r ∈ queries → r ∈ reads) :
    Coherent reads (history ++ heard queries c)
      ((Action.dispatch queries).after c).memory.cells := by
  rcases sends_or_not c.memory.cells queries with
    ⟨requests, frame, hsends⟩ | ⟨requests, hmade, hempty⟩ | ⟨e, hunsent⟩
  · have hheard := heard_of_sends hsends
    rcases htransact : Link.transact frame c.link with ⟨reply, link⟩ | ⟨e, link⟩
    · rw [htransact] at hheard
      dsimp only at hheard
      rcases acknowledged_or_defective requests.flatten reply with ⟨containers, hreply⟩ | hreply
      · rw [checkedContainers_eq_ok_iff.mpr hreply] at hheard
        rw [hheard]
        exact h.dispatch_of_acknowledged hcells hlib hreads hsends htransact hreply
      · obtain ⟨e, hcheck⟩ := checkedContainers_of_defective hreply
        obtain ⟨e', hsettle⟩ := Action.settle_of_defective queries
          { c with link, roundTrips := c.roundTrips + 1 } hreply
        have hdispatch := (Action.dispatch_of_answered hsends htransact).trans hsettle
        rw [hcheck] at hheard
        rw [hheard, List.append_nil, Action.after_of_error hdispatch]
        exact h
    · rw [htransact] at hheard
      rw [hheard, List.append_nil, Action.after_of_error (Action.dispatch_of_lost hsends htransact)]
      exact h
  · obtain rfl := hmade.eq_nil hlib hempty
    rw [heard_nil, List.append_nil, Action.after_of_ok (Action.dispatch_of_silent hmade hempty)]
    exact h
  · rw [heard_of_unsent hunsent, List.append_nil,
      Action.after_of_error (Action.dispatch_of_unsent hunsent)]
    exact h

end

end Coherent

/-! ### Runs -/

section
variable {σ : Type} [Link σ]

/-- What getting the answer to a read makes of a reply, if it makes a batch at all. -/
def ReadQuery.fetches (q : ReadQuery) (c : Client σ) : List SlotEvent :=
  match q.cached? c.memory.cells with
  | some _ => []
  | none => heard [.read q] c

/-- `SlotRun reads history c`: some reads of which nothing was known are used in any way, and `history`
is what has happened to them when the client is `c`. -/
inductive SlotRun (reads : Set ReadQuery) : List SlotEvent → Client σ → Prop
  | start {c : Client σ}
      (h : ∀ q ∈ reads, c.memory.cells.parameters[q.cell]? = none ∧ q.cached? c.memory.cells = none) :
      SlotRun reads [] c
  /-- Anything that leaves the slots of these reads alone. The link and all else may change. -/
  | elsewhere {history : List SlotEvent} {c c' : Client σ} (h : SlotRun reads history c)
      (hcached : ∀ q ∈ reads, q.cached? c'.memory.cells = q.cached? c.memory.cells)
      (hparameter : ∀ q ∈ reads,
        c'.memory.cells.parameters[q.cell]? = c.memory.cells.parameters[q.cell]?) :
      SlotRun reads history c'
  | forget {history : List SlotEvent} {c : Client σ} (h : SlotRun reads history c) {q : ReadQuery}
      (hq : q ∈ reads) :
      SlotRun reads (history ++ [.forgotten q]) ((q.forget : Action σ Unit).after c)
  | nextStep {history : List SlotEvent} {c : Client σ} (h : SlotRun reads history c) {q : ReadQuery}
      (hq : q ∈ reads) (time : Binary64) :
      SlotRun reads (history ++ [.stepped q])
        ((Action.update ((Listener.read q).nextStep time) : Action σ Unit).after c)
  | setParameter {history : List SlotEvent} {c : Client σ} (h : SlotRun reads history c)
      {q : ReadQuery} (hq : q ∈ reads) (v : Value) :
      SlotRun reads (history ++ [.given q c.memory.cells.parameters[q.cell]? v])
        ((q.setParameter v : Action σ Unit).after c)
  /-- A batch of some of the reads, of changes, which may put reads out of date, and of control
  queries. A change that is run on its own is a batch of one. -/
  | batch {history : List SlotEvent} {c : Client σ} (h : SlotRun reads history c)
      {queries : List Query} (hlib : ∀ q ∈ queries, q.BuiltIn)
      (hreads : ∀ r, .read r ∈ queries → r ∈ reads) :
      SlotRun reads (history ++ heard queries c) ((Action.dispatch queries).after c)
  | get {history : List SlotEvent} {c : Client σ} (h : SlotRun reads history c) {q : ReadQuery}
      (hq : q ∈ reads) : SlotRun reads (history ++ q.fetches c) (q.get.after c)
  | getAs {history : List SlotEvent} {c : Client σ} (h : SlotRun reads history c) {q : ReadQuery}
      (hq : q ∈ reads) (α : Type) [Readable α] :
      SlotRun reads (history ++ q.fetches c) ((q.getAs α).after c)

variable {reads : Set ReadQuery} {history : List SlotEvent} {c : Client σ}

/-- Getting an answer keeps what is remembered coherent. -/
theorem Coherent.get (h : Coherent reads history c.memory.cells)
    (hcells : Set.InjOn ReadQuery.cell reads) {q : ReadQuery} (hq : q ∈ reads) :
    Coherent reads (history ++ q.fetches c) (q.get.after c).memory.cells := by
  unfold ReadQuery.fetches
  rcases hcached : q.cached? c.memory.cells with _ | v
  · rw [ReadQuery.after_get_of_empty hcached]
    refine h.dispatch hcells (List.forall_mem_singleton.mpr trivial) ?_
    intro r hr
    obtain rfl : r = q := by simpa using hr
    exact hq
  · rw [ReadQuery.after_get_of_cached hcached, List.append_nil]
    exact h

/-- What is remembered is coherent throughout. -/
theorem SlotRun.coherent (hcells : Set.InjOn ReadQuery.cell reads) (h : SlotRun reads history c) :
    Coherent reads history c.memory.cells := by
  induction h with
  | start h => exact Coherent.start h
  | elsewhere _ hcached hparameter ih => exact ih.congr hcached hparameter
  | forget _ hq ih =>
    exact ih.forget hcells hq (fun _ => Iff.rfl) (by rintro p ⟨_, _, he⟩; cases he) (by simp)
  | nextStep _ hq _ ih =>
    exact ih.forget hcells hq (fun _ => Iff.rfl) (by rintro p ⟨_, _, he⟩; cases he) (by simp)
  | setParameter _ hq v ih => exact ih.given hcells hq v
  | batch _ hlib hreads ih => exact ih.dispatch hcells hlib hreads
  | get _ hq ih => exact ih.get hcells hq
  | getAs _ hq α ih =>
    rw [ReadQuery.after_getAs]
    exact ih.get hcells hq

end

/-! ### The theorem -/

/-- However reads with slots of their own have been used, over a link that answers or fails in any way,
each of them remembers exactly the value of its last answer, if nothing has put that out of date, and
the answer was asked for with the parameter that is set now. A parameter that compares equal to the one
before changes nothing; any other is stored and empties the slot, and that slot alone. An answer that
is remembered is given without a call of the link. Otherwise the link is called once, with the frame of
the read, or not at all if there is no frame; and there is none while a parameter that is needed was
never given. -/
theorem slots_coherent {σ : Type} [Link σ] {reads : Set ReadQuery}
    (hcells : Set.InjOn ReadQuery.cell reads) {history : List SlotEvent} {c : Client (Tapped σ)}
    (h : SlotRun reads history c) {q : ReadQuery} (hq : q ∈ reads) :
    (∀ v, q.cached? c.memory.cells = some v ↔
      ∃ command container, LastAnswer history q command container ∧ q.valueOf container = .ok v) ∧
    (∀ command container, LastAnswer history q command container →
      command.IsAbout q.command q.code q.object c.memory.cells.parameters[q.cell]?) ∧
    (∀ v, ∃ c', q.setParameter v c = .ok () c' ∧
      (c.memory.cells.parameters[q.cell]?.any (·.same v) = true → c' = c) ∧
      (c.memory.cells.parameters[q.cell]?.any (·.same v) = false →
        c'.memory.cells.parameters[q.cell]? = some v ∧ q.cached? c'.memory.cells = none ∧
        ∀ r ∈ reads, r ≠ q → r.cached? c'.memory.cells = r.cached? c.memory.cells ∧
          c'.memory.cells.parameters[r.cell]? = c.memory.cells.parameters[r.cell]?)) ∧
    (∀ v, q.cached? c.memory.cells = some v → q.get c = .ok v c ∧
      ∀ (α : Type) [Readable α], q.getAs α c = Action.ofExcept (Readable.ofValue v) c) ∧
    (q.cached? c.memory.cells = none →
      (∀ command frame, q.request c.memory.cells = .ok command →
        Request.encode [command] = .ok frame →
        (q.get.after c).link.requests = c.link.requests ++ [frame] ∧
        ∀ (α : Type) [Readable α],
          ((q.getAs α).after c).link.requests = c.link.requests ++ [frame]) ∧
      (∀ e, q.Unframed c.memory.cells e → q.get c = .error e c ∧
        ∀ (α : Type) [Readable α], q.getAs α c = .error e c) ∧
      (q.needsParameter = true → (∀ before v, .given q before v ∉ history) →
        ∃ e, q.Unframed c.memory.cells e ∧
          ((Utf8.bytes q.object).length < Emission.countBound →
            e = .missingParameter q.object q.code))) := by
  have hcoherent := h.coherent hcells
  refine ⟨hcoherent.cached_iff q hq, hcoherent.asked q hq, ?_, ?_, ?_⟩
  · intro v
    refine ⟨_, rfl, ?_, ?_⟩
    · intro hsame
      show { c with memory := c.memory.mapCells (·.setParameter q.cell v) } = c
      rw [Memory.mapCells, Cells.setParameter_of_same hsame]
    · intro hdiffers
      show (c.memory.cells.setParameter q.cell v).parameters[q.cell]? = some v ∧
        (c.memory.cells.setParameter q.cell v).cached[q.cell]? = none ∧ _
      rw [Cells.parameters_setParameter hdiffers, Cells.cached_setParameter hdiffers]
      refine ⟨if_pos rfl, if_pos rfl, ?_⟩
      intro r hr hrq
      have hcell : q.cell ≠ r.cell := fun heq => hrq (hcells hr hq heq.symm)
      constructor
      · exact (Cells.cached_setParameter hdiffers r.cell).trans (if_neg hcell)
      · exact (Cells.parameters_setParameter hdiffers r.cell).trans (if_neg hcell)
  · intro v hcached
    exact ⟨ReadQuery.get_of_cached hcached, fun α => ReadQuery.getAs_of_cached α hcached⟩
  · intro hempty
    refine ⟨?_, ?_, ?_⟩
    · intro command frame hrequest hframe
      have hget := ReadQuery.requests_of_get hempty hrequest hframe
      refine ⟨hget, ?_⟩
      intro α _
      rw [ReadQuery.after_getAs]
      exact hget
    · intro e hunframed
      have hget := ReadQuery.get_of_unsent hempty hunframed.unsent
      exact ⟨hget, fun α _ => EStateM.bind_of_error hget⟩
    · intro hneeds hnever
      have hnone := (hcoherent.never_given q hq).mpr hnever
      obtain ⟨e, hrequest, hmissing⟩ := ReadQuery.request_of_missing hneeds hnone
      exact ⟨e, Or.inl hrequest, hmissing⟩

/-! A read that needs a parameter, and a simulator that answers it once. -/

namespace Parameterized

def q : ReadQuery where
  cell := ⟨0, 0⟩
  command := Code.getVehicle
  object := "v0"
  code := Code.speed
  type := .double
  needsParameter := true

def client : Client (Tapped Stream) where
  link := ⟨.awaiting [[.accepting ⟨Code.getVehicle, []⟩ (.single (q.answer (.double ⟨1⟩))) ""]], []⟩

/-- The client once the read was given a parameter. -/
def asked : Client (Tapped Stream) := (q.setParameter (.double ⟨5⟩)).after client

/-- Whether the read has been given its parameter. -/
def isGiven (cells : Cells) : Bool :=
  match cells.parameters[q.cell]? with
  | some (.double x) => x == ⟨5⟩
  | _ => false

end Parameterized

open Parameterized in
/-- Without the parameter the link is not called. With it the link is called once, and what is
remembered answers a command that carried the parameter. -/
theorem parameterized_read_coherent :
    q.get client = .error (.missingParameter "v0" Code.speed) client ∧
    ∃ history, ∃ c' : Client (Tapped Stream), ∃ v command container,
      SlotRun {q} history c' ∧ c'.link.requests.length = 1 ∧
      q.get c' = .ok v c' ∧ LastAnswer history q command container ∧
      q.valueOf container = .ok v ∧
      command.IsAbout Code.getVehicle Code.speed "v0" (some (.double ⟨5⟩)) := by
  have hcells : Set.InjOn ReadQuery.cell {q} := Set.injOn_singleton _ _
  have hstart : SlotRun {q} [] client := by
    apply SlotRun.start
    rintro r rfl
    exact ⟨rfl, rfl⟩
  constructor
  · obtain ⟨-, -, -, -, hempty⟩ := slots_coherent hcells hstart rfl
    obtain ⟨-, hunframed, hmissing⟩ := hempty rfl
    obtain ⟨e, he, hcountable⟩ := hmissing rfl (by simp)
    rw [hcountable (by decide)] at he
    exact (hunframed _ he).1
  · have hplay : q.get.succeedsWith
        (fun _ c => c.link.requests.length == 1 && isGiven c.memory.cells) asked = true := by
      decide +kernel
    obtain ⟨v, c', hget, htest⟩ := Action.of_succeedsWith hplay
    simp only [Bool.and_eq_true, beq_iff_eq] at htest
    have hgiven : SlotRun {q} _ asked := hstart.setParameter rfl (.double ⟨5⟩)
    have hrun := hgiven.get rfl
    rw [Action.after_of_ok hget] at hrun
    obtain ⟨hcached, hasked, -, hfull, -⟩ := slots_coherent hcells hrun rfl
    have hv := ReadQuery.cached_of_get hget
    obtain ⟨command, container, hlast, hvalue⟩ := (hcached v).mp hv
    have hparameter : c'.memory.cells.parameters[q.cell]? = some (.double ⟨5⟩) := by
      have hfive := htest.2
      unfold isGiven at hfive
      split at hfive
      · next x hx => rw [hx, beq_iff_eq.mp hfive]
      · cases hfive
    have habout := hasked command container hlast
    rw [hparameter] at habout
    exact ⟨_, c', v, command, container, hrun, htest.1, (hfull v hv).1, hlast, hvalue, habout⟩

end TrafficControl
