import TrafficControl.Proofs.Query.Ending

/-!
# A read keeps nothing but its own answer

Containers are handed out by their places, and the simulator may have put anything there. A read of a
batch keeps a value only if the container at the place of its own command has a good status about
that command and carries the value as an answer to the read: to its variable, of its object, and of
its kind (`dispatch_keeps_own_answers`). Whatever else the container holds, the read fails and keeps
nothing.
-/

namespace TrafficControl

/-- At a place of a batch stands a command of the read. The container at the same place has a good
status about it, and carries `v` as the answer to the read. -/
structure ReadQuery.AnsweredAt (q : ReadQuery) (cells : Cells) (commands : List Command)
    (containers : List Container) (place : Nat) (v : Value) : Prop where
  asked : ∃ command, commands[place]? = some command ∧ q.request cells = .ok command
  answered : ∃ container, containers[place]? = some container ∧
    container.status.command = q.command ∧ container.status.isOk = true ∧ q.Carries container v

variable {σ : Type} [Link σ] {queries : List Query} {c : Client σ} {commands : List Command}
  {containers : List Container}

/-- The commands that a batch sends, and the containers that it hands out for them. -/
def HandsOut (queries : List Query) (c : Client σ) (commands : List Command)
    (containers : List Container) : Prop :=
  ∃ requests frame reply link, Sends c.memory.cells queries requests frame ∧
    requests.flatten = commands ∧ Link.transact frame c.link = .ok reply link ∧
    Acknowledged commands reply containers

/-! ### What a dispatch has handed out -/

/-- However a batch ends, what it remembers is what some of its first queries have taken. -/
theorem taken_of_dispatch (hlib : ∀ q ∈ queries, q.BuiltIn) (c : Client σ) :
    ∃ done commands containers i, done <+: queries ∧
      (done = [] ∨ HandsOut queries c commands containers) ∧
      takeAll done { pending := containers, cells := c.memory.cells } = .ok () i ∧
      ((Action.dispatch queries).after c).memory.cells = i.cells := by
  obtain ⟨way, hends⟩ := exists_endsBy hlib c
  generalize hr : Action.dispatch queries c = r at hends
  cases hends with
  | unsent | lost | rejected =>
    refine ⟨[], [], [], _, List.nil_prefix, Or.inl rfl, rfl, ?_⟩
    rw [Action.after_of_error hr]
  | empty =>
    refine ⟨[], [], [], _, List.nil_prefix, Or.inl rfl, rfl, ?_⟩
    rw [Action.after_of_ok hr]
  | stuck h htransact hreply hsplit hat hearlier hq =>
    refine ⟨_, _, _, _, ⟨_, hsplit.symm⟩, Or.inr ⟨_, _, _, _, h, rfl, htransact, hreply⟩, hearlier, ?_⟩
    rw [Action.after_of_error hr]
  | completed h htransact hreply hall =>
    refine ⟨_, _, _, _, List.prefix_rfl, Or.inr ⟨_, _, _, _, h, rfl, htransact, hreply⟩, hall, ?_⟩
    rw [Action.after_of_ok hr]

/-- A container that carries a value, at the place of a read, answers the read's own command. -/
theorem answeredAt_of_carries (hlib : ∀ q ∈ queries, q.BuiltIn)
    (hout : HandsOut queries c commands containers) {place : Nat} {q : ReadQuery}
    {container : Container} {v : Value} (hq : queries[place]? = some (.read q))
    (hat : containers[place]? = some container) (h : q.Carries container v) :
    q.AnsweredAt c.memory.cells commands containers place v := by
  obtain ⟨requests, frame, reply, link, hsends, rfl, -, hreply⟩ := hout
  obtain ⟨command, hcommand, hrequests⟩ := hsends.made.command_at hlib hq
  obtain ⟨_, hrequest, heq⟩ := Except.map_eq_ok_iff.mp hrequests
  cases heq
  obtain ⟨hid, -⟩ := Query.asks_of_read hrequest
  obtain ⟨hecho, hok⟩ := hreply.acknowledges_at hat hcommand
  exact ⟨⟨command, hcommand, hrequest⟩, container, hat, hecho.trans hid, hok, h⟩

theorem getElem?_append_of_eq_some {α : Type} {items : List α} (more : List α) {n : Nat} {a : α}
    (h : items[n]? = some a) : (items ++ more)[n]? = some a := by
  obtain ⟨hlt, -⟩ := List.getElem?_eq_some_iff.mp h
  rw [List.getElem?_append_left hlt, h]

/-- A value that is cached after queries have taken their containers was cached before, or some read
has found it in the container at its place. -/
theorem cached_of_takes {done : List Query} {taken : List Container} {effects : List Effect}
    (h : Takes done taken effects) {cells : Cells} {cell : Cell} {v : Value}
    (hv : (Effect.applyAll effects cells).cached[cell]? = some v) :
    cells.cached[cell]? = some v ∨
      ∃ place : Nat, ∃ q : ReadQuery, ∃ container, done[place]? = some (Query.read q) ∧
        q.cell = cell ∧ taken[place]? = some container ∧ q.Carries container v := by
  induction h generalizing cells with
  | nil => exact Or.inl hv
  | cons heffect _ ih =>
    rcases ih hv with hbefore | ⟨place, q, container, hq, hcell, hat, hcarries⟩
    · rcases Effect.cached_of_apply hbefore with hbefore | rfl
      · exact Or.inl hbefore
      · obtain ⟨r, rfl, hcell, hcarries⟩ := Query.carries_of_kept heffect
        exact Or.inr ⟨0, r, _, rfl, hcell, rfl, hcarries⟩
    · exact Or.inr ⟨place + 1, q, container, hq, hcell, hat, hcarries⟩

/-! ### Reads of a batch -/

/-- A read that has had its turn has kept the value of its container. -/
theorem read_of_takes {earlier later : List Query} {q : ReadQuery} {taken : List Container}
    {effects : List Effect} (h : Takes (earlier ++ .read q :: later) taken effects)
    (hlib : ∀ p ∈ earlier, p.BuiltIn) (pending : List Container) (cells : Cells) :
    ∃ container left cells' v,
      taken[earlier.length]? = some container ∧ q.Carries container v ∧
      takeAll earlier { pending := taken ++ pending, cells } =
        .ok () { pending := container :: left, consumed := earlier.length, cells := cells' } ∧
      (Query.read q).consume
          { pending := container :: left, consumed := earlier.length, cells := cells' } =
        .ok () { pending := left, consumed := earlier.length + 1, cells := cells'.keep q.cell v } := by
  obtain ⟨front, container, left, before, e, after, rfl, rfl, hearlier, heffect, -⟩ := h.split
  obtain ⟨v, rfl, hcarries⟩ := Query.effectOf_read_eq_ok heffect
  have hplace : earlier.length = front.length := hearlier.length_eq.1
  have hfront := takeAll_of_takes hearlier hlib (container :: (left ++ pending)) 0 cells
  rw [Nat.zero_add, ← hplace] at hfront
  refine ⟨container, left ++ pending, Effect.applyAll before cells, v, ?_, hcarries, ?_,
    Query.consume_of_effect (q := .read q) trivial heffect⟩
  · rw [hplace, List.getElem?_append_right (Nat.le_refl _), Nat.sub_self]
    rfl
  · rw [List.append_assoc, List.cons_append]
    exact hfront

/-- A read keeps the value of a container that carries one. -/
theorem consume_of_carries {q : ReadQuery} {container : Container} {v : Value}
    (h : q.Carries container v) (pending : List Container) (consumed : Nat) (cells : Cells) :
    (Query.read q).consume { pending := container :: pending, consumed, cells } =
      .ok () { pending, consumed := consumed + 1, cells := cells.keep q.cell v } := by
  have heffect : (Query.read q).effectOf container = .ok (.kept q.cell v) := by
    rw [Query.effectOf, ReadQuery.valueOf_eq_ok_iff.mpr h]
    rfl
  exact Query.consume_of_effect (q := .read q) trivial heffect

/-- A read reports the first check that its container fails, and keeps nothing. -/
theorem consume_of_rejects {q : ReadQuery} {container : Container} {e : ClientError}
    (h : q.Rejects container e) (pending : List Container) (consumed : Nat) (cells : Cells) :
    (Query.read q).consume { pending := container :: pending, consumed, cells } =
      .error e { pending, consumed := consumed + 1, cells } := by
  have heffect : (Query.read q).effectOf container = .error e := by
    rw [Query.effectOf, ReadQuery.valueOf_eq_error_iff.mpr h]
    rfl
  exact Query.consume_of_failure (q := .read q) trivial heffect

/-- A container fails at most one check first. -/
theorem ReadQuery.Rejects.unique {q : ReadQuery} {container : Container} {e e' : ClientError}
    (h : q.Rejects container e) (h' : q.Rejects container e') : e' = e := by
  have heq := (valueOf_of_rejects h').symm.trans (valueOf_of_rejects h)
  cases heq
  rfl

/-! ### The theorem -/

/-- Whatever the link delivers, a batch of built-in queries hands out containers to some of its first
queries, `done`, and remembers what these have taken. Each read among them has kept a value that
answers its own command; and a value that is cached afterwards was cached before, or is such a value.
A read keeps the value of every container that carries one, whatever follows the value. Of any other
container it reports the first check that fails, and keeps nothing. -/
theorem dispatch_keeps_own_answers (hlib : ∀ q ∈ queries, q.BuiltIn) (c : Client σ) :
    (∃ done commands containers i, done <+: queries ∧
      (done = [] ∨ HandsOut queries c commands containers) ∧
      takeAll done { pending := containers, cells := c.memory.cells } = .ok () i ∧
      ((Action.dispatch queries).after c).memory.cells = i.cells ∧
      (∀ earlier q later, done = earlier ++ .read q :: later →
        ∃ container left cells v,
          takeAll earlier { pending := containers, cells := c.memory.cells } =
            .ok () { pending := container :: left, consumed := earlier.length, cells } ∧
          (Query.read q).consume { pending := container :: left, consumed := earlier.length, cells } =
            .ok () { pending := left, consumed := earlier.length + 1, cells := cells.keep q.cell v } ∧
          q.AnsweredAt c.memory.cells commands containers earlier.length v) ∧
      ∀ cell v, i.cells.cached[cell]? = some v → c.memory.cells.cached[cell]? = some v ∨
        ∃ place : Nat, ∃ q : ReadQuery, done[place]? = some (Query.read q) ∧ q.cell = cell ∧
          q.AnsweredAt c.memory.cells commands containers place v) ∧
    ∀ (q : ReadQuery) (container : Container),
      (∀ v, q.Carries container v → ∀ pending consumed cells,
        (Query.read q).consume { pending := container :: pending, consumed, cells } =
          .ok () { pending, consumed := consumed + 1, cells := cells.keep q.cell v }) ∧
      ((∀ v, ¬ q.Carries container v) → ∃ e, q.Rejects container e ∧
        (∀ e', q.Rejects container e' → e' = e) ∧ ∀ pending consumed cells,
          (Query.read q).consume { pending := container :: pending, consumed, cells } =
            .error e { pending, consumed := consumed + 1, cells }) := by
  constructor
  · obtain ⟨done, commands, containers, i, hfirst, hout, hrun, hafter⟩ := taken_of_dispatch hlib c
    have hdone : ∀ q ∈ done, q.BuiltIn := fun q hq => hlib q (hfirst.subset hq)
    obtain ⟨taken, effects, hcontainers, htakes, hcells⟩ := takes_of_takeAll hdone hrun
    -- a read among those that had their turn stands at the same place in the whole batch
    have hanswered : ∀ {place : Nat} {q : ReadQuery} {container : Container} {v : Value},
        done[place]? = some (.read q) → taken[place]? = some container → q.Carries container v →
        q.AnsweredAt c.memory.cells commands containers place v := by
      intro place q container v hq hat hcarries
      rcases hout with rfl | hout
      · cases hq
      · obtain ⟨rest, rfl⟩ := hfirst
        have hqueries := getElem?_append_of_eq_some rest hq
        have hat' : containers[place]? = some container := by
          rw [hcontainers]
          exact getElem?_append_of_eq_some i.pending hat
        exact answeredAt_of_carries hlib hout hqueries hat' hcarries
    refine ⟨done, commands, containers, i, hfirst, hout, hrun, hafter, ?_, ?_⟩
    · rintro earlier q later rfl
      have hearlier : ∀ p ∈ earlier, p.BuiltIn := (List.forall_mem_append.mp hdone).1
      obtain ⟨container, left, cells, v, hat, hcarries, hrunEarlier, hconsume⟩ :=
        read_of_takes htakes hearlier i.pending c.memory.cells
      rw [← hcontainers] at hrunEarlier
      have hq : (earlier ++ .read q :: later)[earlier.length]? = some (.read q) := by simp
      exact ⟨container, left, cells, v, hrunEarlier, hconsume, hanswered hq hat hcarries⟩
    · intro cell v hv
      rw [hcells] at hv
      rcases cached_of_takes htakes hv with hbefore | ⟨place, q, container, hq, hcell, hat, hcarries⟩
      · exact Or.inl hbefore
      · exact Or.inr ⟨place, q, hq, hcell, hanswered hq hat hcarries⟩
  · intro q container
    constructor
    · intro v hcarries
      exact consume_of_carries hcarries
    · intro hnone
      rcases q.carries_or_rejects container with ⟨v, hcarries⟩ | ⟨e, hrejects⟩
      · exact absurd hcarries (hnone v)
      · exact ⟨e, hrejects, fun e' h' => hrejects.unique h', consume_of_rejects hrejects⟩

open Misdirected in
/-- Of two answers about the first vehicle, the one at the place of the second is not kept. -/
theorem misdirected_answer_not_kept :
    ∃ c', (Action.dispatch batch).after client = c' ∧
      c'.memory.cells.cached.contains first.cell = true ∧
      c'.memory.cells.cached.contains second.cell = false ∧
      ∃ commands containers, HandsOut batch client commands containers ∧
        ∀ cell v, c'.memory.cells.cached[cell]? = some v → ∃ place : Nat, ∃ q : ReadQuery,
          batch[place]? = some (Query.read q) ∧ q.cell = cell ∧
          q.AnsweredAt client.memory.cells commands containers place v := by
  have hplay : (Action.dispatch batch).failsWith (fun _ c =>
      c.memory.cells.cached.contains first.cell &&
        !c.memory.cells.cached.contains second.cell) client = true := by
    decide +kernel
  obtain ⟨e, c', hdispatch, htest⟩ := Action.of_failsWith hplay
  simp only [Bool.and_eq_true, Bool.not_eq_true'] at htest
  obtain ⟨hfirst, hsecond⟩ := htest
  obtain ⟨⟨done, commands, containers, i, ⟨rest, hrest⟩, hout, hrun, hafter, -, hkept⟩, -⟩ :=
    dispatch_keeps_own_answers (show ∀ q ∈ batch, q.BuiltIn by decide) client
  rw [Action.after_of_error hdispatch] at hafter
  rw [← hafter] at hkept
  refine ⟨c', Action.after_of_error hdispatch, hfirst, hsecond, commands, containers, ?_, ?_⟩
  · refine hout.resolve_left ?_
    rintro rfl
    cases hrun
    rw [hafter] at hfirst
    cases hfirst
  · intro cell v hv
    rcases hkept cell v hv with hbefore | ⟨place, q, hq, hcell, hanswered⟩
    · cases hbefore
    · refine ⟨place, q, ?_, hcell, hanswered⟩
      rw [← hrest]
      exact getElem?_append_of_eq_some rest hq

end TrafficControl
