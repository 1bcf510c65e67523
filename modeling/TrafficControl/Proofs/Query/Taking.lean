import TrafficControl.Proofs.Query.Effect
import TrafficControl.Proofs.Query.ReadAnswer
import TrafficControl.Query.Batch

/-!
# How the queries of a batch take their containers

A built-in query takes one container. What it makes of it, `Query.effectOf`, depends on the container
alone: either there is something to remember, or the query fails and remembers nothing. A batch of
built-in queries therefore takes its containers one after another up to the first query that fails,
and what is remembered by then is what the queries before it have remembered.

* `consume_of_effect`, `consume_of_failure`: one query.
* `takeAll_of_takes`, `takeAll_of_stuck`: the queries of a batch.
* `takes_or_stuck`: there is no third way.
-/

namespace TrafficControl

namespace Query

/-! ### One query -/

/-- The queries that send one command and take one container: all but those of raw commands. -/
def BuiltIn : Query → Prop
  | .raw .. => False
  | _ => True

instance : DecidablePred BuiltIn
  | .raw .. => inferInstanceAs (Decidable False)
  | .read _ | .change _ | .step _ | .version _ | .close => inferInstanceAs (Decidable True)

/-- What a query has to remember of the container that it takes, or the failure that it reports. -/
def effectOf : Query → Container → Except ClientError Effect
  | .read q, c => (q.valueOf c).map (.kept q.cell)
  | .change q, c => c.status.accept.map fun _ => .outdated q.outdates
  | .step cell, c =>
    match c.answers? with
    | some answers => .ok (.stepped cell answers)
    | none => .error (.missingResponse Code.simulationStep)
  | .version cell, c => (versionOf c).map (.identified cell)
  | .close, _ => .ok .nothing
  | .raw .., _ => .ok .nothing

/-- A built-in query takes the next container and no more. It remembers what it makes of it, and
nothing if it fails. -/
theorem consume_eq {q : Query} (hq : q.BuiltIn) (container : Container) (pending : List Container)
    (consumed : Nat) (cells : Cells) :
    q.consume { pending := container :: pending, consumed, cells } =
      match q.effectOf container with
      | .ok e => .ok () { pending, consumed := consumed + 1, cells := e.apply cells }
      | .error e => .error e { pending, consumed := consumed + 1, cells } := by
  cases q with
  | read q =>
    rw [consume, EStateM.bind_of_ok (x := Consumer.next) rfl, effectOf]
    rcases q.valueOf container with e | v <;> rfl
  | change q =>
    rw [consume, EStateM.bind_of_ok (x := Consumer.next) rfl, effectOf]
    rcases container.status.accept with e | u <;> rfl
  | step cell =>
    rw [consume, EStateM.bind_of_ok (x := Consumer.next) rfl, effectOf]
    rcases container.answers? with _ | answers <;> rfl
  | version cell =>
    rw [consume, EStateM.bind_of_ok (x := Consumer.next) rfl, effectOf]
    rcases versionOf container with e | v <;> rfl
  | close => rfl
  | raw => exact hq.elim

variable {q : Query} {container : Container} {pending : List Container} {consumed : Nat}
  {cells : Cells}

theorem consume_of_effect {e : Effect} (hq : q.BuiltIn) (h : q.effectOf container = .ok e) :
    q.consume { pending := container :: pending, consumed, cells } =
      .ok () { pending, consumed := consumed + 1, cells := e.apply cells } := by
  rw [consume_eq hq, h]

theorem consume_of_failure {e : ClientError} (hq : q.BuiltIn)
    (h : q.effectOf container = .error e) :
    q.consume { pending := container :: pending, consumed, cells } =
      .error e { pending, consumed := consumed + 1, cells } := by
  rw [consume_eq hq, h]

/-- What keeps the version from being read. -/
theorem versionOf_eq_error {e : ClientError} (h : versionOf container = .error e) :
    (container.answer? = none ∧ e = .missingResponse Code.getVersion) ∨
      (∃ actual, e = .unexpectedCommand Code.getVersion actual) ∨ ∃ e', e = .framing e' := by
  unfold versionOf at h
  split at h
  · next hnone =>
    cases h
    exact Or.inl ⟨hnone, rfl⟩
  · split at h
    · cases h
      exact Or.inr (Or.inl ⟨_, rfl⟩)
    · unfold Command.readPayload at h
      split at h
      · cases h
      · next e c hread =>
        cases h
        rcases EStateM.bind_eq_error_iff.mp hread with hlevel | ⟨level, c₁, -, hread⟩
        · exact Or.inr (Or.inr (Reader.framing_of_framed hlevel))
        · rcases EStateM.bind_eq_error_iff.mp hread with htext | ⟨text, c₂, -, hread⟩
          · exact Or.inr (Or.inr (Reader.framing_of_framed htext))
          · cases hread

/-- What keeps the version from being read is never a refusal. -/
theorem versionOf_ne_refused {command result : UInt8} {description : String} :
    versionOf container ≠ .error (.refused command result description) := by
  intro h
  rcases versionOf_eq_error h with ⟨-, he⟩ | ⟨_, he⟩ | ⟨_, he⟩ <;> cases he

/-- What a read makes of a container is to keep the value that the container carries. -/
theorem effectOf_read_eq_ok {r : ReadQuery} {e : Effect}
    (h : (Query.read r).effectOf container = .ok e) :
    ∃ v, e = .kept r.cell v ∧ r.Carries container v := by
  obtain ⟨v, hv, rfl⟩ := Except.map_eq_ok_iff.mp h
  exact ⟨v, rfl, ReadQuery.valueOf_eq_ok_iff.mp hv⟩

/-- Only a read keeps a value, and it is one that its container carries. -/
theorem carries_of_kept {cell : Cell} {v : Value}
    (h : q.effectOf container = .ok (.kept cell v)) :
    ∃ r, q = .read r ∧ r.cell = cell ∧ r.Carries container v := by
  cases q with
  | read r =>
    obtain ⟨v', heq, hcarries⟩ := effectOf_read_eq_ok h
    cases heq
    exact ⟨r, rfl, rfl, hcarries⟩
  | change r =>
    obtain ⟨_, -, heq⟩ := Except.map_eq_ok_iff.mp h
    cases heq
  | step cell' =>
    rw [effectOf] at h
    split at h <;> cases h
  | version cell' =>
    obtain ⟨_, -, heq⟩ := Except.map_eq_ok_iff.mp h
    cases heq
  | close => cases h
  | raw => cases h

/-- A query never reports a refusal of a container whose status is good. -/
theorem effectOf_ne_refused (hok : container.status.isOk = true) {command result : UInt8}
    {description : String} : q.effectOf container ≠ .error (.refused command result description) := by
  intro h
  cases q with
  | read q => cases ReadQuery.valueOf_eq_error_iff.mp (Except.map_eq_error_iff.mp h)
  | change q =>
    rw [effectOf, Status.accept, hok] at h
    cases h
  | step cell =>
    rw [effectOf] at h
    split at h <;> cases h
  | version cell => exact versionOf_ne_refused (Except.map_eq_error_iff.mp h)
  | close => cases h
  | raw => cases h

theorem consume_of_nothing (hq : q.BuiltIn) (consumed : Nat) (cells : Cells) :
    q.consume { pending := [], consumed, cells } =
      .error (.broken .noAnswerLeft) { pending := [], consumed, cells } := by
  cases q with
  | raw => exact hq.elim
  | _ => rfl

/-- A built-in query takes as many containers as it has sent commands. -/
theorem consumeExactly_eq (hq : q.BuiltIn) (i : Intake) : consumeExactly q 1 i = q.consume i := by
  obtain ⟨pending, consumed, cells⟩ := i
  rw [consumeExactly, EStateM.bind_of_ok (x := MonadState.get) rfl]
  cases pending with
  | nil =>
    have hnothing := consume_of_nothing hq consumed cells
    rw [EStateM.bind_of_error hnothing, hnothing]
  | cons container pending =>
    have hconsume := consume_eq hq container pending consumed cells
    rcases heffect : q.effectOf container with e | e
    · rw [heffect] at hconsume
      rw [EStateM.bind_of_error hconsume, hconsume]
    · rw [heffect] at hconsume
      rw [EStateM.bind_of_ok hconsume, hconsume, EStateM.bind_of_ok (x := MonadState.get) rfl]
      dsimp only
      rw [Nat.add_sub_cancel_left, if_neg (fun h => h rfl)]
      rfl

end Query

/-! ### The queries of a batch -/

/-- Every query takes its containers, in order. -/
def takeAll (queries : List Query) : Consumer Unit := queries.forM Query.consume

/-- Each query makes something of the container at its place. -/
inductive Takes : List Query → List Container → List Effect → Prop
  | nil : Takes [] [] []
  | cons {q : Query} {container : Container} {e : Effect} {queries : List Query}
      {containers : List Container} {effects : List Effect} (h : q.effectOf container = .ok e)
      (hs : Takes queries containers effects) :
      Takes (q :: queries) (container :: containers) (e :: effects)

theorem takeAll_cons (q : Query) (queries : List Query) :
    takeAll (q :: queries) = (do q.consume; takeAll queries) := List.forM_cons

theorem takeAll_append (earlier later : List Query) :
    takeAll (earlier ++ later) = (do takeAll earlier; takeAll later) := List.forM_append

/-- The containers that a batch of built-in queries is handed are those that its queries take. -/
theorem consumeAll_eq_takeAll {queries : List Query} (h : ∀ q ∈ queries, q.BuiltIn) :
    consumeAll (queries.map (·, 1)) = takeAll queries := by
  induction queries with
  | nil => rfl
  | cons q queries ih =>
    obtain ⟨hq, hqueries⟩ := List.forall_mem_cons.mp h
    have hexactly : consumeExactly q 1 = q.consume := funext (Query.consumeExactly_eq hq)
    rw [List.map_cons, consumeAll, hexactly, ih hqueries, takeAll_cons]

variable {queries : List Query} {containers : List Container} {effects : List Effect}
  {consumed : Nat} {cells : Cells}

theorem Takes.length_eq (h : Takes queries containers effects) :
    queries.length = containers.length ∧ effects.length = containers.length := by
  induction h with
  | nil => exact ⟨rfl, rfl⟩
  | cons _ _ ih => simp [ih]

/-- Queries that make something of their containers take them all. -/
theorem takeAll_of_takes (h : Takes queries containers effects) (hq : ∀ q ∈ queries, q.BuiltIn)
    (more : List Container) (consumed : Nat) (cells : Cells) :
    takeAll queries { pending := containers ++ more, consumed, cells } =
      .ok () { pending := more, consumed := consumed + containers.length,
               cells := Effect.applyAll effects cells } := by
  induction h generalizing consumed cells with
  | nil => rfl
  | cons h _ ih =>
    obtain ⟨hq, hqueries⟩ := List.forall_mem_cons.mp hq
    rw [takeAll_cons, List.cons_append, EStateM.bind_of_ok (Query.consume_of_effect hq h),
      ih hqueries, List.length_cons, Nat.add_assoc, Nat.add_comm 1]
    rfl

/-- A query that fails ends the batch; what the queries before it remembered stays. -/
theorem takeAll_of_stuck {q : Query} {container : Container} {e : ClientError}
    (h : Takes queries containers effects) (hq : ∀ q ∈ queries, q.BuiltIn) (hlib : q.BuiltIn)
    (hfail : q.effectOf container = .error e) (later : List Query) (left : List Container)
    (consumed : Nat) (cells : Cells) :
    takeAll (queries ++ q :: later) { pending := containers ++ container :: left, consumed, cells } =
      .error e { pending := left, consumed := consumed + containers.length + 1,
                 cells := Effect.applyAll effects cells } := by
  rw [takeAll_append, EStateM.bind_of_ok (takeAll_of_takes h hq _ consumed cells), takeAll_cons,
    EStateM.bind_of_error (Query.consume_of_failure hlib hfail)]

/-- As many queries as containers either make something of all of them, or there is a first query
that fails. -/
theorem takes_or_stuck (hlen : queries.length = containers.length) :
    (∃ effects, Takes queries containers effects) ∨
    ∃ earlier q later taken container left effects e,
      queries = earlier ++ q :: later ∧ containers = taken ++ container :: left ∧
      Takes earlier taken effects ∧ q.effectOf container = .error e := by
  induction queries generalizing containers with
  | nil =>
    obtain rfl := List.eq_nil_of_length_eq_zero hlen.symm
    exact Or.inl ⟨[], .nil⟩
  | cons q queries ih =>
    obtain ⟨container, containers, rfl⟩ := List.exists_cons_of_length_eq_add_one hlen.symm
    rcases heffect : q.effectOf container with e | f
    · exact Or.inr ⟨[], q, queries, [], container, containers, [], e, rfl, rfl, .nil, heffect⟩
    · rcases ih (Nat.succ.inj hlen) with ⟨effects, htakes⟩ |
        ⟨earlier, q', later, taken, container', left, effects, e, rfl, rfl, htakes, hfail⟩
      · exact Or.inl ⟨f :: effects, .cons heffect htakes⟩
      · exact Or.inr ⟨q :: earlier, q', later, container :: taken, container', left, f :: effects, e,
          rfl, rfl, .cons heffect htakes, hfail⟩

/-- Queries that have all taken a container have each made something of it. -/
theorem takes_of_takeAll {i : Intake} (hq : ∀ q ∈ queries, q.BuiltIn)
    (h : takeAll queries { pending := containers, consumed, cells } = .ok () i) :
    ∃ taken effects, containers = taken ++ i.pending ∧ Takes queries taken effects ∧
      i.cells = Effect.applyAll effects cells := by
  induction queries generalizing containers consumed cells with
  | nil =>
    cases h
    exact ⟨[], [], rfl, .nil, rfl⟩
  | cons q queries ih =>
    obtain ⟨hq, hqueries⟩ := List.forall_mem_cons.mp hq
    rw [takeAll_cons] at h
    obtain ⟨_, i₁, hfirst, hrest⟩ := EStateM.bind_eq_ok_iff.mp h
    cases containers with
    | nil =>
      rw [Query.consume_of_nothing hq] at hfirst
      cases hfirst
    | cons container containers =>
      rcases heffect : q.effectOf container with e | e
      · rw [Query.consume_of_failure hq heffect] at hfirst
        cases hfirst
      · rw [Query.consume_of_effect hq heffect] at hfirst
        cases hfirst
        obtain ⟨taken, effects, rfl, htakes, hcells⟩ := ih hqueries hrest
        exact ⟨container :: taken, e :: effects, rfl, .cons heffect htakes, hcells⟩

/-- The effects of a batch, at a place of the batch. -/
theorem Takes.split {earlier later : List Query} {q : Query}
    (h : Takes (earlier ++ q :: later) containers effects) :
    ∃ taken container left before e after, containers = taken ++ container :: left ∧
      effects = before ++ e :: after ∧ Takes earlier taken before ∧ q.effectOf container = .ok e ∧
      Takes later left after := by
  induction earlier generalizing containers effects with
  | nil =>
    cases h with
    | cons h hs => exact ⟨[], _, _, [], _, _, rfl, rfl, .nil, h, hs⟩
  | cons q' earlier ih =>
    cases h with
    | cons h hs =>
      obtain ⟨taken, container, left, before, e, after, rfl, rfl, hearlier, hq, hlater⟩ := ih hs
      exact ⟨_ :: taken, container, left, _ :: before, e, after, rfl, rfl, .cons h hearlier, hq,
        hlater⟩

end TrafficControl
