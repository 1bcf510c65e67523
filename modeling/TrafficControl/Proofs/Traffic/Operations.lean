import TrafficControl.Proofs.Traffic.Founding

/-!
# What the operations of a simulation meet

Every public operation of a simulation that roles suit leaves a simulation that the same roles, or more,
suit. It may fail, but by no fault of the client, except that bringing the vehicle repository in line
fails when the simulator lists a vehicle that never departed (`Unlisted`). A listing gives roles to the
entities that it makes.

* `Simulation.ids_meets`, `Simulation.version_meets`: single operations.
* `Operation`: what can be done with a simulation and with what it hands out.
* `Operation.run_meets`: every operation.
-/

namespace TrafficControl

variable {σ α : Type} {Γ : Roles} {s : Simulation} {before m m' : Memory} {k : Kind}

/-! ### Factories -/

/-- The factory of the repository of a kind. -/
def Simulation.factory (s : Simulation) : Kind → String → Action σ Handle
  | .vehicle => s.findVehicle
  | .edge | .lane | .trafficLight => entityFactory

/-- The failure of a listing of vehicles that names one that never departed. -/
def Unlisted (k : Kind) (e : ClientError) : Prop := k = .vehicle ∧ ∃ id, e = .broken (.neverDeparted id)

/-- A factory has failed in the one way in which it may, and some objects were made before it did. -/
def Roles.Baffled (Γ : Roles) (before : Memory) (k : Kind) (e : ClientError) (m : Memory) : Prop :=
  Unlisted k e ∧ ∃ objects, Γ.Grown Memory.Fades before k objects m

namespace Repository

theorem entityFactory_meets {objects : Registry} (id : String) :
    (Simulation.entityFactory id : Action σ Handle).Meets (Γ.Grown Memory.Fades before k objects)
      (fun h m => Γ.Grown Memory.Fades before k (objects.insert id h) m) (Γ.Baffled before k) := by
  unfold Simulation.entityFactory Action.fresh
  refine .modifyMemory fun m hm => ?_
  exact hm.insert_new Memory.Fades.steady id (.fresh m) (Nat.lt_succ_self _)

theorem vehicleFactory_meets {live objects : Registry} (hlive : Γ.Names .vehicle live) (id : String) :
    (Simulation.vehicleFactory live id : Action σ Handle).Meets
      (Γ.Grown Memory.Fades before .vehicle objects)
      (fun h m => Γ.Grown Memory.Fades before .vehicle (objects.insert id h) m)
      (Γ.Baffled before .vehicle) := by
  unfold Simulation.vehicleFactory
  split
  · next h hid => exact .pure fun m hm => hm.insert_known (hlive id h hid)
  · exact .throw fun m hm => ⟨⟨rfl, id, rfl⟩, objects, hm⟩

theorem factory_meets (hlive : Γ.Names .vehicle s.lifecycle.live) {objects : Registry} (id : String) :
    (s.factory k id : Action σ Handle).Meets (Γ.Grown Memory.Fades before k objects)
      (fun h m => Γ.Grown Memory.Fades before k (objects.insert id h) m) (Γ.Baffled before k) := by
  cases k with
  | vehicle => exact vehicleFactory_meets hlive id
  | edge | lane | trafficLight => exact entityFactory_meets id

theorem pick_meets {held objects : Registry} (hlive : Γ.Names .vehicle s.lifecycle.live)
    (hheld : Γ.Names k held) (id : String) :
    (pick (s.factory k) held id : Action σ Handle).Meets (Γ.Grown Memory.Fades before k objects)
      (fun h m => Γ.Grown Memory.Fades before k (objects.insert id h) m) (Γ.Baffled before k) := by
  unfold pick
  split
  · next h hid => exact .pure fun m hm => hm.insert_known (hheld id h hid)
  · exact factory_meets hlive id

/-- The objects of a listing can be named. -/
theorem gather_meets {held : Registry} (hlive : Γ.Names .vehicle s.lifecycle.live)
    (hheld : Γ.Names k held) (ids : List String) (objects : Registry) :
    (gather (s.factory k) held ids objects : Action σ Registry).Meets
      (Γ.Grown Memory.Fades before k objects)
      (fun objects m => Γ.Grown Memory.Fades before k objects m) (Γ.Baffled before k) := by
  induction ids generalizing objects with
  | nil => exact .pure fun m hm => hm
  | cons id ids ih =>
    by_cases hmem : objects.contains id = true
    · rw [gather, if_pos hmem]
      exact ih objects
    · rw [gather_of_new hmem]
      exact .bind (pick_meets hlive hheld id) fun h => ih _

end Repository

/-! ### Listings -/

/-- A repository may hold objects that are named. -/
theorem Roles.Covers.setHolding (h : Γ.Covers s m) {objects : Registry} (hnames : Γ.Names k objects) :
    Γ.Covers s (m.setHolding (s.repository k).handle objects) where
  simulation := h.simulation
  lifecycle := h.lifecycle
  repository := h.repository
  live := h.live
  held j := by
    by_cases hjk : j = k
    · subst hjk
      rw [Repository.objects, Memory.holding_setHolding]
      exact hnames
    · -- repositories of other kinds are other objects
      have hne : (s.repository k).handle ≠ (s.repository j).handle := by
        intro heq
        have hrole := h.repository k
        rw [heq, h.repository j] at hrole
        exact hjk (Role.repository.inj (Option.some.inj hrole))
      rw [Repository.objects, Memory.holding_setHolding_of_ne hne]
      exact h.held j

/-- A repository may take over objects that can be named. -/
theorem Roles.Grown.setHolding {R : Memory → Memory → Prop} (steady : Memory.Steady R)
    {objects : Registry} (h : Γ.Grown R before k objects m) (hcovers : Γ.Covers s before) :
    ∃ Γ' : Roles, (∀ x < before.nextHandle, Γ' x = Γ x) ∧ Γ'.Placed m ∧
      Γ'.Covers s (m.setHolding (s.repository k).handle objects) := by
  obtain ⟨Γ', hsame, hplaced, hnames⟩ := h.named
  have hheld := (hcovers.mono (h.placed.extendedBy hsame)).of_sameHoldings
    (steady.proceeds h.passes).holdings
  exact ⟨Γ', hsame, hplaced, hheld.setHolding hnames⟩

theorem Roles.Suits.setHolding {objects : Registry} (hsuits : Γ.Suits s before)
    (h : Γ.Grown Memory.Fades before k objects m) :
    Γ.CanSuit s (m.setHolding (s.repository k).handle objects) := by
  obtain ⟨Γ', hsame, hplaced, hcovers⟩ := h.setHolding Memory.Fades.steady hsuits.covers
  have hfit := hsuits.fit.grown h.passes hsame hplaced
  exact ⟨Γ', h.placed.extendedBy hsame, ⟨⟨hfit.bound, hfit.blank⟩, hfit.typed⟩, hcovers⟩

theorem Roles.Suits.of_baffled [Link σ] (h : Γ.Suits s before) {e : ClientError}
    (he : Γ.Baffled before k e m) : Γ.Endures σ (Unlisted k) s e m := by
  obtain ⟨hunlisted, objects, hgrown⟩ := he
  obtain ⟨Γ', hle, hfit, -⟩ := hgrown.canName h.fit
  exact ⟨fun _ _ => hunlisted, Γ', hle, hfit,
    (h.covers.mono hle).of_sameHoldings hgrown.passes.holdings⟩

namespace Simulation

variable [Link σ] {permitted : ClientError → Prop}

omit [Link σ] in
theorem standard_idList (r : Repository k) : (Query.read r.idList).Standard := by
  show k.readCommand < 0xf0 ∧ Code.isStatusOnly k.readCommand = false ∧
    k.readCommand ≠ Code.simulationStep
  cases k <;> decide

/-- Bringing a repository in line. -/
theorem ids_meets (s : Simulation) (k : Kind) :
    ((s.repository k).ids (s.factory k) : Action σ (List String)).Meets (Γ.Suits s)
      (fun _ => Γ.CanSuit s) (Γ.Endures σ (Unlisted k) s) := by
  have hread : ((s.repository k).idList.getAs (List String) : Action σ (List String)).Meets (Γ.Suits s)
      (fun _ => Γ.Suits s) (Γ.Endures σ (Unlisted k) s) :=
    .lift fun _ hcovers => ReadQuery.getAs_meets_of_plain (standard_idList _)
      (Roles.serves_idList (hcovers.repository k)) Readable.accepts_table.2.2.2.1 rfl
  refine .bind hread fun listed => .bind .memory fun held => .named ?_
  rintro before ⟨rfl, hsuits⟩
  refine .bind ((Repository.gather_meets hsuits.covers.live (hsuits.covers.held k) listed ∅).mono ?_
    (fun _ _ => id) fun e m he => hsuits.of_baffled he) fun objects =>
    .bind (Q := fun _ => Γ.CanSuit s) (.update ?_) fun _ => ?_
  · rintro m rfl
    exact .start Memory.Fades.steady hsuits.fit.toPlaced (.empty Γ k)
  · exact fun m hm => hsuits.setHolding hm
  · exact .pure fun _ => id

/-- Asking a repository for one object, which is named if there is one. -/
theorem find?_meets (s : Simulation) (k : Kind) (id : String) :
    ((s.repository k).find? (s.factory k) id : Action σ (Option (Entity k))).Meets (Γ.Suits s)
      (fun found m => ∃ Γ', Γ.ExtendedBy Γ' ∧ Γ'.Suits s m ∧
        ∀ e, found = some e → Γ' e.handle = some (.entity k e.id)) (Γ.Endures σ (Unlisted k) s) := by
  refine .bind (.discard (s.ids_meets k)) fun _ => .bind .memory fun m => .pure ?_
  rintro m' ⟨rfl, Γ', hle, hsuits⟩
  refine ⟨Γ', hle, hsuits, ?_⟩
  intro e he
  obtain ⟨h, hheld, rfl⟩ := Option.map_eq_some_iff.mp he
  exact hsuits.covers.held k id h hheld

theorem all_meets (s : Simulation) (k : Kind) :
    ((s.repository k).all (s.factory k) : Action σ (List (Entity k))).Meets (Γ.Suits s)
      (fun _ => Γ.CanSuit s) (Γ.Endures σ (Unlisted k) s) := by
  refine .bind (.discard (s.ids_meets k)) fun _ => .bind .memory fun m => .pure ?_
  rintro m' ⟨-, hm⟩
  exact hm

/-! ### Questions and orders -/

theorem edgeTravelTime_meets (s : Simulation) (id : String) :
    (s.edgeTravelTime id : Action σ (Option Binary64)).Meets (Γ.Suits s) (fun _ => Γ.CanSuit s)
      (Γ.Endures σ permitted s) := by
  have hfind : (s.edges.find? entityFactory id : Action σ (Option Edge)).Meets (Γ.Suits s)
      (fun found m => ∃ Γ', Γ.ExtendedBy Γ' ∧ Γ'.Suits s m ∧
        ∀ e, found = some e → Γ' e.handle = some (.entity .edge e.id)) (Γ.Endures σ permitted s) :=
    (s.find?_meets .edge id).mono (fun _ h => h) (fun _ _ h => h) fun e m he =>
      ⟨fun hhonest hinternal => absurd (he.permitted_of_internal hhonest hinternal).1 nofun, he.canSuit⟩
  refine .bind hfind fun found => .elim fun Γ' => .named ?_
  rintro before ⟨hle, hsuits, hfound⟩
  cases found with
  | none =>
    refine .pure ?_
    rintro m rfl
    exact ⟨Γ', hle, hsuits⟩
  | some e =>
    have htime : (Edge.travelTime e s.currentTime : Action σ Binary64).Meets (Γ'.Suits s)
        (fun _ => Γ'.Suits s) (Γ'.Endures σ permitted s) :=
      .lift fun _ _ => Edge.travelTime_meets (hfound e rfl) s.currentTime
    refine .map _ (htime.mono ?_ ?_ fun _ _ he => he.mono hle)
    · rintro m rfl
      exact hsuits
    · exact fun _ m hm => ⟨Γ', hle, hm⟩

theorem addVehicle_meets (id : String) (descriptor : VehicleDescriptor) :
    (addVehicle id descriptor : Action σ Unit).Meets (Γ.Suits s) (fun _ => Γ.Suits s)
      (Γ.Endures σ permitted s) := by
  refine .bind (Q := fun _ => Γ.Suits s) (.modifyMemory ?_) fun h => .lift fun _ _ => ?_
  · exact fun m hm => hm.of_fades (.fresh m)
  · refine ChangeQuery.runWith_meets ?_ _
    rfl

theorem minExpected_meets (s : Simulation) :
    (s.minExpected : Action σ Int32).Meets (Γ.Suits s) (fun _ => Γ.Suits s) (Γ.Endures σ permitted s) :=
  .lift fun _ hcovers => ReadQuery.getAs_meets_of_plain (standard_wholeQuery _ _ _ _)
    hcovers.serves_minExpected Readable.accepts_table.2.1 rfl

theorem netBoundary_meets (s : Simulation) :
    (s.netBoundary : Action σ BoundingBox).Meets (Γ.Suits s) (fun _ => Γ.Suits s)
      (Γ.Endures σ permitted s) :=
  .lift fun _ hcovers => ReadQuery.getAs_meets_of_plain (standard_wholeQuery _ _ _ _)
    hcovers.serves_netBoundary Readable.accepts_table.2.2.2.2.2.2.2 rfl

/-- A version that is not remembered is asked for, and is remembered then. -/
theorem version_meets (s : Simulation) :
    (s.version : Action σ (Int32 × String)).Meets (Γ.Suits s) (fun _ => Γ.Suits s)
      (Γ.Endures σ permitted s) := by
  refine .lift fun before _ => .bind .memory fun m => ?_
  split
  · exact .pure fun m hm => hm.2
  · refine .bind ((Roles.dispatch_one_meets (q := .version s.versionCell) trivial nofun).mono
      (fun m hm => ⟨hm.2, trivial⟩) (fun _ _ => id) fun _ _ => id) fun _ => .bind .memory fun m => ?_
    split
    · exact .pure fun m hm => hm.2.1
    · next hnone =>
      refine .throw ?_
      rintro m ⟨rfl, -, hanswered⟩
      obtain ⟨v, hv⟩ := hanswered.version_eq_some
      rw [hnone] at hv
      cases hv

theorem close_meets (s : Simulation) :
    (s.close : Action σ Unit).Meets (Γ.Suits s) (fun _ => Γ.Suits s) (Γ.Endures σ permitted s) := by
  refine .bind (Q := fun _ => Γ.Suits s) (.lift fun _ _ => ?_) fun _ => .update ?_
  · exact (Roles.dispatch_one_meets (q := .close) trivial nofun).mono (fun m hm => ⟨hm, trivial⟩)
      (fun _ _ h => h.1) fun _ _ => id
  · exact fun m hm => hm.of_fades (.addLog _ m)

end Simulation

/-! ### All of them -/

/-- What can be done with a simulation and with the entities that it hands out. -/
inductive Operation where
  | stepTo (target : Binary64)
  | step
  | edgeTravelTime (id : String)
  | addVehicle (id : String) (descriptor : VehicleDescriptor)
  | minExpected
  | netBoundary
  | version
  | close
  /-- Brings a repository in line. -/
  | ids (k : Kind)
  | find (k : Kind) (id : String)
  | all (k : Kind)
  /-- Asks an entity for something, or tells it something. -/
  | use {k : Kind} (e : Entity k) (u : Use k)

namespace Operation

/-- Works with a simulation; what it answers is left aside. -/
def run [Link σ] (s : Simulation) : Operation → Action σ Simulation
  | stepTo target => Prod.snd <$> s.stepTo target
  | step => Prod.snd <$> s.step
  | edgeTravelTime id => do
    discard (s.edgeTravelTime id)
    pure s
  | addVehicle id descriptor => do
    Simulation.addVehicle id descriptor
    pure s
  | minExpected => do
    discard s.minExpected
    pure s
  | netBoundary => do
    discard s.netBoundary
    pure s
  | version => do
    discard s.version
    pure s
  | close => do
    s.close
    pure s
  | ids k => do
    discard ((s.repository k).ids (s.factory k))
    pure s
  | find k id => do
    discard ((s.repository k).find? (s.factory k) id)
    pure s
  | all k => do
    discard ((s.repository k).all (s.factory k))
    pure s
  | use e u => do
    u.run e
    pure s

/-- The entity that is used is there for its kind and id. -/
def Named (Γ : Roles) : Operation → Prop
  | @use k e _ => Γ e.handle = some (.entity k e.id)
  | _ => True

/-- The failures of an operation that speak of a promise that was broken: only a listing of vehicles
has one. -/
def Permits : Operation → ClientError → Prop
  | ids k | find k _ | all k => Unlisted k
  | _ => fun _ => False

variable [Link σ]

/-- Every operation leaves a simulation that the same roles suit, or more, and fails by no fault of the
client unless it is a listing of vehicles. -/
theorem run_meets (op : Operation) (hnamed : op.Named Γ)
    (heed : Lifecycle.Heed Memory.Fades s.observers s.listeners) :
    (op.run s : Action σ Simulation).Meets (Γ.Suits s)
      (fun s' m => s.SameButLifecycle s' ∧ Γ.CanSuit s' m) (Γ.Endures σ op.Permits s) := by
  -- what only asks leaves the simulation as it is
  have hasks : ∀ {x : Action σ Unit},
      x.Meets (Γ.Suits s) (fun _ => Γ.CanSuit s) (Γ.Endures σ op.Permits s) →
      (x >>= fun _ => pure s : Action σ Simulation).Meets (Γ.Suits s)
        (fun s' m => s.SameButLifecycle s' ∧ Γ.CanSuit s' m) (Γ.Endures σ op.Permits s) :=
    fun hx => .bind hx fun _ => .pure fun m hm => ⟨rfl, hm⟩
  have hstays : ∀ {x : Action σ Unit},
      x.Meets (Γ.Suits s) (fun _ => Γ.Suits s) (Γ.Endures σ op.Permits s) →
      (x >>= fun _ => pure s : Action σ Simulation).Meets (Γ.Suits s)
        (fun s' m => s.SameButLifecycle s' ∧ Γ.CanSuit s' m) (Γ.Endures σ op.Permits s) :=
    fun hx => hasks (hx.mono (fun _ => id) (fun _ _ hm => hm.canSuit) fun _ _ => id)
  cases op with
  | stepTo target => exact .map _ (Simulation.stepTo_meets heed target)
  | step => exact .map _ (Simulation.stepTo_meets heed _)
  | edgeTravelTime id => exact hasks (.discard (s.edgeTravelTime_meets id))
  | addVehicle id descriptor => exact hstays (Simulation.addVehicle_meets id descriptor)
  | minExpected => exact hstays (.discard s.minExpected_meets)
  | netBoundary => exact hstays (.discard s.netBoundary_meets)
  | version => exact hstays (.discard s.version_meets)
  | close => exact hstays s.close_meets
  | ids k => exact hasks (.discard (s.ids_meets k))
  | find k id =>
    refine hasks (.discard ((s.find?_meets k id).mono (fun _ h => h) ?_ fun _ _ h => h))
    rintro _ m ⟨Γ', hle, hsuits, -⟩
    exact ⟨Γ', hle, hsuits⟩
  | all k => exact hasks (.discard (s.all_meets k))
  | use e u => exact hstays (.lift fun _ _ => u.run_meets hnamed)

end Operation

end TrafficControl
