import TrafficControl.Proofs.Query.Verdict
import TrafficControl.Proofs.Traffic.Founding

/-!
# What the replies to a lifecycle tell

A lifecycle has its answers from the containers of its own reply, and from nothing that was remembered
before: every listing that it works with was taken from the container at its place.

* `tickAnswer?`, `bootstrapAnswer?`: what containers tell, a function of the containers alone.
* `collect_of_takes`, `survey_of_takes`: what a tick and a bootstrap find once their batch has succeeded.
-/

namespace TrafficControl

variable {σ α : Type}

/-! ### Single reads -/

namespace ReadQuery

variable {q : ReadQuery} {container : Container}

/-- What a container tells a read, as what the value stands for. -/
def told? (α : Type) [Readable α] (q : ReadQuery) (container : Container) : Option α :=
  (q.valueOf container).toOption.bind Readable.ofValue?

variable [Readable α]

theorem told?_eq_some_iff {a : α} :
    q.told? α container = some a ↔ ∃ v, q.Carries container v ∧ Readable.ofValue? v = some a := by
  simp only [told?, Option.bind_eq_some_iff, ← valueOf_eq_ok_iff]
  rcases q.valueOf container with e | v <;> simp [Except.toOption]

/-- A read that made something of its container was told what it wants to know. -/
theorem exists_told {e : Effect} (haccepts : Readable.Accepts α q.type)
    (h : (Query.read q).effectOf container = .ok e) :
    ∃ v a, e = .kept q.cell v ∧ Readable.ofValue v = .ok (a : α) ∧ q.told? α container = some a := by
  obtain ⟨v, rfl, hcarries⟩ := Query.effectOf_read_eq_ok h
  obtain ⟨a, ha⟩ := haccepts v hcarries.type_eq
  exact ⟨v, a, rfl, by rw [Readable.ofValue, ha], told?_eq_some_iff.mpr ⟨v, hcarries, ha⟩⟩

end ReadQuery

namespace Lifecycle

variable {l : Lifecycle}

theorem fetched_of_cached [Readable α] {q : ReadQuery} {c : Client σ} {v : Value} {a : α}
    (hv : q.cached? c.memory.cells = some v) (ha : Readable.ofValue v = .ok a) :
    (fetched α q : Action σ α) c = .ok a c := by
  have hmemory : (Action.memory : Action σ Memory) c = .ok c.memory c := rfl
  rw [fetched, EStateM.bind_of_ok hmemory, hv]
  dsimp only
  rw [ha]
  rfl

/-- After the answers of a batch a read finds what was kept for it, if nothing was put in its place
later. -/
theorem cached_of_applyAll {q : ReadQuery} {c : Client σ} {cells : Cells} (earlier : List Effect)
    {later : List Effect} {v : Value}
    (hcells : c.memory.cells = Effect.applyAll (earlier ++ .kept q.cell v :: later) cells)
    (hother : ∀ e ∈ later, ¬ e.Overrides (.kept q.cell v)) :
    q.cached? c.memory.cells = some v := by
  rw [hcells]
  exact Effect.holds_at_end cells rfl hother

theorem fetchedIds_of_cached {q : ReadQuery} {c : Client σ} {v : Value} {ids : List String}
    (hv : q.cached? c.memory.cells = some v) (ha : Readable.ofValue v = .ok ids) :
    (fetchedIds q : Action σ IdSet) c = .ok (IdSet.ofIds ids) c :=
  EStateM.map_of_ok IdSet.ofIds (fetched_of_cached hv ha)

/-! ### Ticks -/

/-- What the containers of a reply tell a tick. -/
def tickAnswer? (l : Lifecycle) : List Container → Option TickAnswer
  | [_, active, started, ended, arrived, time] => do
    let time ← l.timeQuery.told? Binary64 time
    let active ← l.activeQuery.told? (List String) active
    let started ← l.teleportStartingQuery.told? (List String) started
    let ended ← l.teleportEndingQuery.told? (List String) ended
    let arrived ← l.arrivedQuery.told? (List String) arrived
    pure {
      time
      active := IdSet.ofIds active
      teleportStarted := IdSet.ofIds started
      teleportEnded := IdSet.ofIds ended
      arrived }
  | _ => none

/-- What a tick does once its batch has succeeded: it looks at what was remembered. -/
def collect (l : Lifecycle) : Action σ TickAnswer := do
  let time ← fetched Binary64 l.timeQuery
  let active ← fetchedIds l.activeQuery
  let teleportStarted ← fetchedIds l.teleportStartingQuery
  let teleportEnded ← fetchedIds l.teleportEndingQuery
  let arrived ← fetched (List String) l.arrivedQuery
  pure { time, active, teleportStarted, teleportEnded, arrived }

/-- After a batch that has succeeded a tick has the answers that the containers of the batch tell. -/
theorem collect_of_takes {containers : List Container} {effects : List Effect}
    (h : Takes l.tickBatch containers effects) :
    ∃ a, l.tickAnswer? containers = some a ∧ ∀ (c : Client σ) (cells : Cells),
      c.memory.cells = Effect.applyAll effects cells → l.collect c = .ok a c := by
  obtain ⟨hnumber, -, -, hlist, -⟩ := Readable.accepts_table
  cases h with | @cons _ _ stepped _ _ _ hstep h => ?_
  cases h with | cons hactive h => ?_
  cases h with | cons hstarted h => ?_
  cases h with | cons hended h => ?_
  cases h with | cons harrived h => ?_
  cases h with | cons htime h => ?_
  cases h
  obtain ⟨v₁, active, rfl, hactive, htold₁⟩ := ReadQuery.exists_told hlist hactive
  obtain ⟨v₂, started, rfl, hstarted, htold₂⟩ := ReadQuery.exists_told hlist hstarted
  obtain ⟨v₃, ended, rfl, hended, htold₃⟩ := ReadQuery.exists_told hlist hended
  obtain ⟨v₄, arrived, rfl, harrived, htold₄⟩ := ReadQuery.exists_told hlist harrived
  obtain ⟨v₀, time, rfl, htime, htold₀⟩ := ReadQuery.exists_told hnumber htime
  refine ⟨⟨time, IdSet.ofIds active, IdSet.ofIds started, IdSet.ofIds ended, arrived⟩, ?_, ?_⟩
  · simp only [tickAnswer?, htold₀, htold₁, htold₂, htold₃, htold₄]
    rfl
  intro c cells hcells
  -- no two of the reads share a place, so each finds what was kept for it
  have h₁ : l.activeQuery.cached? c.memory.cells = some v₁ :=
    cached_of_applyAll [stepped] hcells (by simp [Effect.Overrides, activeQuery,
      teleportStartingQuery, teleportEndingQuery, arrivedQuery, timeQuery, listing])
  have h₂ : l.teleportStartingQuery.cached? c.memory.cells = some v₂ :=
    cached_of_applyAll [stepped, _] hcells (by simp [Effect.Overrides, teleportStartingQuery,
      teleportEndingQuery, arrivedQuery, timeQuery, listing])
  have h₃ : l.teleportEndingQuery.cached? c.memory.cells = some v₃ :=
    cached_of_applyAll [stepped, _, _] hcells (by simp [Effect.Overrides,
      teleportEndingQuery, arrivedQuery, timeQuery, listing])
  have h₄ : l.arrivedQuery.cached? c.memory.cells = some v₄ :=
    cached_of_applyAll [stepped, _, _, _] hcells (by simp [Effect.Overrides,
      arrivedQuery, timeQuery, listing])
  have h₀ : l.timeQuery.cached? c.memory.cells = some v₀ :=
    cached_of_applyAll [stepped, _, _, _, _] hcells (by simp)
  rw [collect, EStateM.bind_of_ok (fetched_of_cached h₀ htime),
    EStateM.bind_of_ok (fetchedIds_of_cached h₁ hactive),
    EStateM.bind_of_ok (fetchedIds_of_cached h₂ hstarted),
    EStateM.bind_of_ok (fetchedIds_of_cached h₃ hended),
    EStateM.bind_of_ok (fetched_of_cached h₄ harrived)]
  rfl

/-- A tick sets the time that its step asks for, runs its batch and looks at what was remembered. -/
theorem ask_eq [Link σ] (target : Binary64) : l.ask target = (do
      Action.updateCells (·.setTarget l.stepCell target)
      Action.dispatch l.tickBatch
      l.collect : Action σ TickAnswer) := rfl

/-! ### Bootstraps -/

/-- What the containers of a reply tell a bootstrap. -/
def bootstrapAnswer? (l : Lifecycle) : List Container → Option (Binary64 × IdSet)
  | [active, time] => do
    let time ← l.timeQuery.told? Binary64 time
    let active ← l.activeQuery.told? (List String) active
    pure (time, IdSet.ofIds active)
  | _ => none

/-- What a bootstrap does once its batch has succeeded: it looks at what was remembered. -/
def survey (l : Lifecycle) : Action σ (Binary64 × IdSet) := do
  let time ← fetched Binary64 l.timeQuery
  let active ← fetchedIds l.activeQuery
  pure (time, active)

/-- What a bootstrap does with the time and the active ids: it takes over the vehicles. -/
def takeOver (l : Lifecycle) (time : Binary64) (active : IdSet) (m : Memory) : Lifecycle × Memory :=
  let (live, m) := registerAll time active.toList l.live m
  ({ l with active, clock := time, live }, m.addLog (.bootstrapped time active.size))

theorem survey_of_takes {containers : List Container} {effects : List Effect}
    (h : Takes l.bootstrapBatch containers effects) :
    ∃ a, l.bootstrapAnswer? containers = some a ∧ ∀ (c : Client σ) (cells : Cells),
      c.memory.cells = Effect.applyAll effects cells → l.survey c = .ok a c := by
  obtain ⟨hnumber, -, -, hlist, -⟩ := Readable.accepts_table
  cases h with | cons hactive h => ?_
  cases h with | cons htime h => ?_
  cases h
  obtain ⟨v₁, active, rfl, hactive, htold₁⟩ := ReadQuery.exists_told hlist hactive
  obtain ⟨v₀, time, rfl, htime, htold₀⟩ := ReadQuery.exists_told hnumber htime
  refine ⟨(time, IdSet.ofIds active), ?_, ?_⟩
  · simp only [bootstrapAnswer?, htold₀, htold₁]
    rfl
  intro c cells hcells
  have h₁ : l.activeQuery.cached? c.memory.cells = some v₁ :=
    cached_of_applyAll [] hcells (by simp [Effect.Overrides, activeQuery,
      timeQuery, listing])
  have h₀ : l.timeQuery.cached? c.memory.cells = some v₀ :=
    cached_of_applyAll [_] hcells (by simp)
  rw [survey, EStateM.bind_of_ok (fetched_of_cached h₀ htime),
    EStateM.bind_of_ok (fetchedIds_of_cached h₁ hactive)]
  rfl

/-- A bootstrap runs its batch, looks at what was remembered and takes over the vehicles. -/
theorem bootstrap_eq [Link σ] : l.bootstrap = (do
      Action.dispatch l.bootstrapBatch
      let a ← l.survey
      Action.modifyMemory (l.takeOver a.1 a.2) : Action σ Lifecycle) := by
  unfold bootstrap survey
  simp only [bind_assoc, pure_bind]
  rfl

end Lifecycle

end TrafficControl
