import TrafficControl.Proofs.Traffic.AnyOrder
import TrafficControl.Proofs.Traffic.Reachable

/-!
# What is fresh after a step

After a step of a simulation nothing is remembered of what varies from step to step, and everything else
is remembered as before: for every vehicle that is registered and every entity that a repository holds,
for the listings, and for the simulation as a whole. Which answers go is known from the parts of a step;
that no other answer goes follows from the roles of the objects, since no two of them share a cell.
This holds of every simulation that can come about (`Simulation.Reachable`).

* `Simulation.Outdated.varies`: what is out of date of an entity varies, unless the entity arrived.
* `step_freshens`: what is remembered after a step, in whatever order it comes to its objects.
-/

namespace TrafficControl

variable {σ : Type} {Γ : Roles} {s : Simulation} {a : TickAnswer} {live : Registry} {m : Memory}

/-! ### Whose cells are out of date -/

/-- The cell of an entity that belongs to another entity tells that they are the same. -/
theorem Roles.entity_eq_of_cell {k k' : Kind} {e : Entity k} {e' : Entity k'}
    (he : Γ e.handle = some (.entity k e.id)) (he' : Γ e'.handle = some (.entity k' e'.id))
    {x : k.Variable} {x' : k'.Variable} (h : e.cell x = e'.cell x') : k = k' ∧ e.id = e'.id := by
  have howner : e.handle = e'.handle := congrArg Cell.owner h
  rw [howner, he'] at he
  obtain ⟨hkind, hid⟩ := Role.entity.inj (Option.some.inj he)
  exact ⟨hkind.symm, hid.symm⟩

namespace Simulation.Outdated

variable (hcovers : Γ.Covers s m) (hlive : Γ.Names .vehicle live)

include hcovers hlive

/-- What is out of date of an entity varies from step to step, or the entity is a vehicle that has
arrived. -/
theorem varies {k : Kind} {e : Entity k} (he : Γ e.handle = some (.entity k e.id)) {x : k.Variable}
    (h : s.Outdated a live m (e.cell x)) :
    (k.info x).volatility = .perStep ∨ (k = .vehicle ∧ e.id ∈ s.lifecycle.arrivedIds a) := by
  have hvaries : ∀ {k' : Kind} {e' : Entity k'}, Γ e'.handle = some (.entity k' e'.id) →
      e'.Varies (e.cell x) → (k.info x).volatility = .perStep := by
    rintro k' ⟨h', id'⟩ he' ⟨x', hx', hcell⟩
    obtain ⟨rfl, -⟩ := Roles.entity_eq_of_cell he he' hcell
    have hindex : k.index x = k.index x' := congrArg Cell.index hcell
    rw [k.index_injective hindex]
    exact hx'
  have howner : ∀ {r : Role} {c : Cell}, Γ c.owner = some r → (∀ id, r ≠ .entity k id) →
      e.cell x ≠ c := by
    rintro r c hr hne rfl
    have heq : Γ e.handle = some r := hr
    rw [he] at heq
    exact hne e.id (Option.some.inj heq).symm
  generalize hc : e.cell x = c at h
  cases h with
  | @arrived id h' c harrived hregistered howns =>
    obtain ⟨x', hcell⟩ := howns
    have he' : Γ (⟨h', id⟩ : Vehicle).handle = some (.entity .vehicle (⟨h', id⟩ : Vehicle).id) :=
      hcovers.live id h' hregistered
    obtain ⟨rfl, hid⟩ := Roles.entity_eq_of_cell he he' (hc.trans hcell)
    exact Or.inr ⟨rfl, hid ▸ harrived⟩
  | @registered id h' c hregistered hvary =>
    subst hc
    exact Or.inl (hvaries (hlive id h' hregistered) hvary)
  | @repository k' c houtdates =>
    rcases houtdates with ⟨-, hcell⟩ | ⟨-, id, h', hheld, hvary⟩
    · exact absurd (hc.trans hcell) (howner (hcovers.repository k') nofun)
    · subst hc
      exact Or.inl (hvaries (hcovers.held k' id h' hheld) hvary)
  | minExpected => exact absurd hc (howner hcovers.simulation nofun)

/-- A cell of an object that is no entity is out of date if it is of a listing that changes, or of the
number of vehicles that are expected. -/
theorem cases_of_role {c : Cell} {r : Role} (hr : Γ c.owner = some r) (hne : ∀ k id, r ≠ .entity k id)
    (h : s.Outdated a live m c) :
    (∃ k, (s.repository k).changing = true ∧ c = (s.repository k).idList.cell) ∨
      c = s.minExpectedQuery.cell := by
  have hentity : ∀ {k : Kind} {id : String} {h : Handle}, Γ h = some (.entity k id) → c.owner ≠ h := by
    rintro k id h hh rfl
    rw [hr] at hh
    exact hne k id (Option.some.inj hh)
  cases h with
  | arrived harrived hregistered howns =>
    obtain ⟨x, rfl⟩ := howns
    exact absurd rfl (hentity (hcovers.live _ _ hregistered))
  | registered hregistered hvary =>
    obtain ⟨x, -, rfl⟩ := hvary
    exact absurd rfl (hentity (hlive _ _ hregistered))
  | @repository k c houtdates =>
    rcases houtdates with hlisting | ⟨-, id, h, hheld, x, -, rfl⟩
    · exact Or.inl ⟨k, hlisting⟩
    · exact absurd rfl (hentity (hcovers.held k id h hheld))
  | minExpected => exact Or.inr rfl

end Simulation.Outdated

/-! ### What is remembered after a step -/

variable {before m' : Memory} {k : Kind}

/-- What varies of an entity is not remembered, and everything else is remembered as before. -/
def Entity.Freshened (e : Entity k) (m m' : Memory) : Prop :=
  ∀ x : k.Variable,
    (e.query x).cached? m'.cells =
      (if (k.info x).volatility = .perStep then none else (e.query x).cached? m.cells) ∧
    m'.cells.parameters[e.cell x]? = m.cells.parameters[e.cell x]?

/-- Nothing is remembered of an entity. -/
def Entity.Emptied (e : Entity k) (m : Memory) : Prop :=
  ∀ x : k.Variable, (e.query x).cached? m.cells = none

/-- What the two halves of a step do to what is remembered, told with the roles of the objects. -/
structure Simulation.Steps (Γ : Roles) (s : Simulation) (a : TickAnswer) (live : Registry)
    (before m m' : Memory) : Prop where
  covers : Γ.Covers s m
  names : Γ.Names .vehicle live
  frames : before.SameButOwned s.lifecycle.handle m
  forgets : m.Forgets (s.Outdated a live m) m'

namespace Simulation.Steps

variable (h : s.Steps Γ a live before m m')

include h

/-- What belongs to another object than the lifecycle, and is not out of date, is remembered as before
the step. -/
theorem cached_eq {c : Cell} {r : Role} (hr : Γ c.owner = some r) (hne : r ≠ .lifecycle)
    (hfresh : ¬ s.Outdated a live m c) : m'.cells.cached[c]? = before.cells.cached[c]? := by
  rw [h.forgets.kept c hfresh, h.frames.cached c]
  intro howner
  rw [howner, h.covers.lifecycle] at hr
  exact hne (Option.some.inj hr).symm

theorem parameters_eq : m'.cells.parameters = before.cells.parameters := by
  rw [h.forgets.elsewhere]
  exact h.frames.parameters

theorem versions_eq : m'.cells.versions = before.cells.versions := by
  rw [h.forgets.elsewhere]
  exact h.frames.versions

theorem objects_eq (k : Kind) : (s.repository k).objects m' = (s.repository k).objects before := by
  have hholdings :=
    Memory.SameHoldings.lasting.trans (.of_sameButCells h.frames.same) h.forgets.holdings
  exact hholdings.holding_eq _

/-- An entity that is told about the step, and has not arrived, is freshened. -/
theorem freshened {e : Entity k} (he : Γ e.handle = some (.entity k e.id))
    (htold : ∀ c, e.Varies c → s.Outdated a live m c)
    (hstays : ¬ (k = .vehicle ∧ e.id ∈ s.lifecycle.arrivedIds a)) : e.Freshened before m' := by
  intro x
  refine ⟨?_, by rw [h.parameters_eq]⟩
  split
  · next hvaries => exact h.forgets.forgotten _ (htold _ ⟨x, hvaries, rfl⟩)
  · next hvaries =>
    refine h.cached_eq he nofun fun houtdated => ?_
    exact (houtdated.varies h.covers h.names he).elim hvaries hstays

/-- An entity of which nothing was remembered is one of which nothing is remembered. -/
theorem emptied {e : Entity k} (he : Γ e.handle = some (.entity k e.id))
    (hempty : ∀ place, before.cells.cached[(⟨e.handle, place⟩ : Cell)]? = none) : e.Emptied m' := by
  intro x
  by_cases houtdated : s.Outdated a live m (e.cell x)
  · exact h.forgets.forgotten _ houtdated
  · exact (h.cached_eq (r := .entity k e.id) he nofun houtdated).trans (hempty _)

/-- The listing of a repository is forgotten exactly if it changes. -/
theorem listing_eq (k : Kind) :
    (s.repository k).idList.cached? m'.cells = if (s.repository k).changing = true then none
      else (s.repository k).idList.cached? before.cells := by
  split
  · next hchanging => exact h.forgets.forgotten _ (.repository (Or.inl ⟨hchanging, rfl⟩))
  · next hchanging =>
    have hrole := h.covers.repository k
    refine h.cached_eq hrole nofun fun houtdated => ?_
    rcases houtdated.cases_of_role (r := .repository k) h.covers h.names hrole (fun _ _ => nofun) with
      ⟨k', hchanging', hcell⟩ | hcell
    · have howner : (s.repository k).handle = (s.repository k').handle := congrArg Cell.owner hcell
      rw [howner, h.covers.repository k'] at hrole
      cases hrole
      exact hchanging hchanging'
    · have howner : (s.repository k).handle = s.handle := congrArg Cell.owner hcell
      rw [howner, h.covers.simulation] at hrole
      cases hrole

theorem netBoundary_eq :
    s.netBoundaryQuery.cached? m'.cells = s.netBoundaryQuery.cached? before.cells := by
  have hrole := h.covers.simulation
  refine h.cached_eq hrole nofun fun houtdated => ?_
  rcases houtdated.cases_of_role (r := .simulation) h.covers h.names hrole (fun _ _ => nofun) with
    ⟨k, -, hcell⟩ | hcell
  · have howner : s.handle = (s.repository k).handle := congrArg Cell.owner hcell
    rw [howner, h.covers.repository k] at hrole
    cases hrole
  · exact absurd (congrArg Cell.index hcell) nofun

end Simulation.Steps

/-! ### Steps -/

/-- What is fresh after a step that reports `said` and takes a simulation from `s` to `s'`, and what its
client remembers from `m` to `m'`. -/
structure Simulation.Freshened (s s' : Simulation) (said : StepEvents) (m m' : Memory) : Prop where
  /-- Nothing but the lifecycle of the vehicles has gone on. -/
  sameButLifecycle : s.SameButLifecycle s'
  /-- A registered vehicle is the one that was registered before and has not arrived, or it is new. -/
  registered : ∀ (id : String) (h : Handle), s'.lifecycle.live[id]? = some h →
    (s.lifecycle.live[id]? = some h ∧ id ∉ said.arrived ∧
        Entity.Freshened (k := .vehicle) ⟨h, id⟩ m m') ∨
      (m.nextHandle ≤ h ∧ Entity.Emptied (k := .vehicle) ⟨h, id⟩ m')
  /-- Vehicles that arrive are retired. -/
  retired : ∀ id ∈ said.arrived, ∀ h, s.lifecycle.live[id]? = some h →
    (m'.vehicle h).retired = true ∧ Entity.Emptied (k := .vehicle) ⟨h, id⟩ m'
  /-- No other vehicle is. -/
  arrived : ∀ h < m.nextHandle, (m.vehicle h).retired = false → (m'.vehicle h).retired = true →
    ∃ id ∈ said.arrived, s.lifecycle.live[id]? = some h
  held : ∀ k, k ≠ .vehicle → ∀ (id : String) (h : Handle),
    ((s.repository k).objects m')[id]? = some h → Entity.Freshened (k := k) ⟨h, id⟩ m m'
  objects : ∀ k, (s.repository k).objects m' = (s.repository k).objects m
  listing : ∀ k, (s.repository k).idList.cached? m'.cells =
    if k = .vehicle then none else (s.repository k).idList.cached? m.cells
  minExpected : s.minExpectedQuery.cached? m'.cells = none
  netBoundary : s.netBoundaryQuery.cached? m'.cells = s.netBoundaryQuery.cached? m.cells
  version : m'.cells.versions[s.versionCell]? = m.cells.versions[s.versionCell]?

variable [Link σ] {s' : Simulation} {c c' : Client σ} {target : Binary64} {said : StepEvents}

/-- After a step that goes well, with observers and listeners that do not touch queries, what varies is
forgotten and everything else is remembered as before; and the step is the same in whatever order it
comes to the registered vehicles and to what the repositories hold. -/
theorem step_freshens (reachable : s.Reachable c)
    (heed : Lifecycle.Heed Memory.Aside s.observers s.listeners)
    (h : s.stepTo target c = .ok (said, s') c') :
    s.Freshened s' said c.memory c'.memory ∧
      ∀ (live : Enumeration) (held : Kind → Enumeration),
        (s.stepToIn live held target : Action σ _) = s.stepTo target := by
  refine ⟨?_, fun live held => s.stepToIn_eq live held target⟩
  obtain ⟨hwired, -, Γ, hmaps⟩ := reachable.standing
  obtain ⟨l', hadvance, rfl⟩ := Simulation.stepTo_eq_ok h
  obtain ⟨a, c₁, hask, rfl, rfl, hmemory⟩ := Lifecycle.advance_eq_ok hadvance
  -- the first half of the step
  have hframes := ((Lifecycle.ask_frames target) c (.refl _ _)).1 a c₁ hask
  have hasked := Simulation.maps_of_ask hmaps hframes
  have hnext : c₁.memory.nextHandle = c.memory.nextHandle := hframes.same.nextHandle_eq
  -- the second half
  obtain ⟨-, Γ', hsame, hturned⟩ := hasked.turn Memory.Proceeds.steady
    (heed.mono fun _ _ haside => haside.fades.proceeds) a
  have hsteps : s.Steps Γ' a (s.lifecycle.turn s.observers s.allListeners a c₁.memory).1.live
      c.memory c₁.memory c'.memory := by
    refine ⟨hasked.covers.mono (hasked.placed.extendedBy hsame), hturned.covers.live, hframes, ?_⟩
    rw [hmemory]
    exact s.forgets_turn heed a c₁.memory
  have hkeeps := Memory.Keeps.lasting.allListeners (heed.mono fun _ _ => Memory.Aside.toKeeps)
  have hgrows := hkeeps.mono fun _ _ => Memory.Keeps.grows
  refine {
    sameButLifecycle := rfl
    registered := ?_
    retired := ?_
    arrived := ?_
    held := ?_
    objects := hsteps.objects_eq
    listing := ?_
    minExpected := hsteps.forgets.forgotten _ .minExpected
    netBoundary := hsteps.netBoundary_eq
    version := by rw [hsteps.versions_eq] }
  · intro id x hx
    have hrole := hsteps.names id x hx
    rcases Lifecycle.turn_live_cases hgrows hx with ⟨hlive, harrived, -⟩ | ⟨hnew, -⟩
    · refine Or.inl ⟨hlive, harrived, hsteps.freshened hrole ?_ fun hgone => harrived hgone.2⟩
      exact fun _ hvaries => .registered hx hvaries
    · rw [hnext] at hnew
      exact Or.inr ⟨hnew, hsteps.emptied hrole (hmaps.placed.blank x hnew)⟩
  · intro id harrived x hlive
    have hbound := hasked.placed.bound x _ (hasked.covers.live id x hlive)
    constructor
    · rw [hmemory]
      exact Lifecycle.retired_of_arrived hgrows hlive hbound harrived
    · exact fun y => hsteps.forgets.forgotten _ (.arrived harrived hlive ⟨y, rfl⟩)
  · intro x hx hpresent hretired
    by_contra hnot
    have hturned := Lifecycle.keepsBut_turn hkeeps s.lifecycle a c₁.memory
    have hrecord := hturned.vehicle_eq x (hnext ▸ hx) hnot
    rw [← hmemory, hframes.same.vehicle_eq] at hrecord
    rw [hrecord, hpresent] at hretired
    cases hretired
  · intro k hk id x hx
    have hforwards : (s.repository k).forwarding = true := (hwired k).2.trans (decide_eq_true hk)
    have hobjects : (s.repository k).objects c₁.memory = (s.repository k).objects c.memory :=
      hframes.same.holding_eq _
    rw [hsteps.objects_eq, ← hobjects] at hx
    refine hsteps.freshened (hsteps.covers.held k id x hx) ?_ fun hgone => hk hgone.1
    exact fun _ hvaries => .repository (Or.inr ⟨hforwards, id, x, hx, hvaries⟩)
  · intro k
    rw [hsteps.listing_eq, (hwired k).1]
    simp

/-- Who only writes log records does not touch queries. -/
theorem Observer.logging_aside (notice : Notice) (m : Memory) :
    Memory.Aside m (Observer.logging.tell notice m) := by
  show Memory.Aside m (notice.logRecord?.elim m m.addLog)
  cases notice.logRecord? with
  | none => exact ⟨.refl m, .refl m⟩
  | some r => exact ⟨.addLog r m, .addLog r m⟩

/-- A step in which one vehicle arrives and another departs: the mean speed of an edge is forgotten, its
travel time is not. -/
theorem travel_time_kept :
    ∃ s : Simulation, ∃ c c' : Client Stream, ∃ said s',
      s.Reachable c ∧ Lifecycle.Heed Memory.Aside s.observers s.listeners ∧
      s.stepTo .zero c = .ok (said, s') c' ∧
      ((Entity.query (k := .edge) ⟨7, "e0"⟩ EdgeVariable.meanSpeed).cached? c.memory.cells).isSome ∧
      (Entity.query (k := .edge) ⟨7, "e0"⟩ EdgeVariable.meanSpeed).cached? c'.memory.cells = none ∧
      ((Entity.query (k := .edge) ⟨7, "e0"⟩ EdgeVariable.travelTime).cached? c.memory.cells).isSome ∧
      (Entity.query (k := .edge) ⟨7, "e0"⟩ EdgeVariable.travelTime).cached? c'.memory.cells =
        (Entity.query (k := .edge) ⟨7, "e0"⟩ EdgeVariable.travelTime).cached? c.memory.cells := by
  have hplay : (Simulation.start (some .zero)).succeedsWith (fun s c =>
      ((s.repository .edge).ids (s.factory .edge)).succeedsWith (fun _ c =>
        ((Entity.query (k := .edge) ⟨7, "e0"⟩ EdgeVariable.travelTime).setParameter
            (.double .zero)).succeedsWith (fun _ c => decide (7 < c.memory.nextHandle) &&
          (Action.dispatch [.read (Entity.query (k := .edge) ⟨7, "e0"⟩ EdgeVariable.meanSpeed),
              .read (Entity.query (k := .edge) ⟨7, "e0"⟩ EdgeVariable.travelTime)]).succeedsWith
            (fun _ c => (s.observers.isEmpty && s.listeners.isEmpty &&
              ((s.repository .edge).objects c.memory)["e0"]? == some 7 &&
              ((Entity.query (k := .edge) ⟨7, "e0"⟩ EdgeVariable.meanSpeed).cached?
                c.memory.cells).isSome &&
              ((Entity.query (k := .edge) ⟨7, "e0"⟩ EdgeVariable.travelTime).cached?
                c.memory.cells).isSome) &&
            ((s.addObserver .logging).stepTo .zero).succeedsWith (fun _ _ => true) c) c) c) c)
      ({ link := .awaiting [Lifecycle.bootstrapReply { handle := 5 } { active := ["v0"] },
        [(Repository.idList (k := .edge) ⟨2, "", false, true⟩).container (.textList ["e0"])],
        [(Entity.query (k := .edge) ⟨7, "e0"⟩ EdgeVariable.meanSpeed).container (.double .zero),
          (Entity.query (k := .edge) ⟨7, "e0"⟩ EdgeVariable.travelTime).container (.double .zero)],
        Lifecycle.tickReply { handle := 5 } { active := ["v1"], arrived := ["v0"] }] } :
        Client Stream) = true := by
    decide +kernel
  obtain ⟨s, c₁, hstart, hplay⟩ := Action.of_succeedsWith hplay
  obtain ⟨ids, c₂, hlist, hplay⟩ := Action.of_succeedsWith hplay
  obtain ⟨_, c₃, hset, hplay⟩ := Action.of_succeedsWith hplay
  obtain ⟨hmade, hplay⟩ := Bool.and_eq_true_iff.mp hplay
  obtain ⟨_, c₄, hdispatch, hplay⟩ := Action.of_succeedsWith hplay
  obtain ⟨htests, hplay⟩ := Bool.and_eq_true_iff.mp hplay
  obtain ⟨⟨said, s'⟩, c', hstep, -⟩ := Action.of_succeedsWith hplay
  simp only [Bool.and_eq_true, List.isEmpty_iff, beq_iff_eq] at htests
  obtain ⟨⟨⟨⟨hobservers, hlisteners⟩, hheld⟩, hspeed⟩, htime⟩ := htests
  have blank : ({} : Memory).Blank := fun _ _ _ => Std.ExtTreeMap.getElem?_empty
  have reached₂ := (Simulation.Reachable.started blank (fun _ _ => rfl) hstart).listed hlist
  have reached₃ : s.Reachable c₃ := by
    cases hset
    exact reached₂.elsewhere ((Memory.Fades.setParameter _ _ c₂.memory).proceeds.spares s)
  have reached₄ : s.Reachable c₄ := by
    rw [← Action.after_of_ok hdispatch]
    refine reached₃.dispatch (by decide) fun r hr => ?_
    obtain rfl | rfl : r = _ ∨ r = _ := by simpa using hr
    · exact of_decide_eq_true hmade
    · exact of_decide_eq_true hmade
  have reached := reached₄.observed fun notice m => (Observer.logging_aside notice m).fades.proceeds
  have heed : Lifecycle.Heed Memory.Aside (s.addObserver .logging).observers
      (s.addObserver .logging).listeners := by
    unfold Simulation.addObserver
    rw [hobservers, hlisteners, List.nil_append]
    refine ⟨?_, fun x hx => absurd hx List.not_mem_nil⟩
    rw [List.forall_mem_singleton]
    exact Observer.logging_aside
  have hfresh := (step_freshens reached heed hstep).1
  have hedge := hfresh.held .edge nofun "e0" 7
    ((congrArg (·["e0"]?) (hfresh.objects .edge)).trans hheld)
  exact ⟨_, _, _, _, _, reached, heed, hstep, hspeed, (hedge EdgeVariable.meanSpeed).1, htime,
    (hedge EdgeVariable.travelTime).1⟩

end TrafficControl
