import TrafficControl.Proofs.Traffic.Accessors
import TrafficControl.Proofs.Traffic.Objects

/-!
# How roles grow with a simulation

An operation leaves a simulation that the same roles suit, or more. What takes objects into a registry
when they are made can give them roles of their own (`Roles.Grown`), and a tick does so with the
vehicles that it registers. The roles fit afterwards if nothing is remembered anew meanwhile.

* `Roles.CanSuit`, `Roles.Endures`: what an operation leaves when it succeeds, and when it fails.
* `Roles.Maps.turn`, `Lifecycle.ask_meets`: the two halves of a tick.
* `Simulation.stepTo_meets`: a tick.
-/

namespace TrafficControl

variable {σ α : Type} {Γ : Roles} {s : Simulation} {before m m' : Memory}

/-! ### Simulations that roles suit -/

namespace Roles

/-- Some roles that extend these fit the memory and cover the simulation. -/
def CanSuit (Γ : Roles) (s : Simulation) (m : Memory) : Prop := ∃ Γ', Γ.ExtendedBy Γ' ∧ Γ'.Suits s m

/-- A failure that is permitted, or else not the client's own fault, and after which some roles still
suit the simulation. -/
structure Endures (Γ : Roles) (σ : Type) [Link σ] (permitted : ClientError → Prop) (s : Simulation)
    (e : ClientError) (m : Memory) : Prop where
  permitted_of_internal : HonestLink σ → e.isInternal = true → permitted e
  canSuit : Γ.CanSuit s m

namespace Suits

theorem canSuit (h : Γ.Suits s m) : Γ.CanSuit s m := ⟨Γ, .refl Γ, h⟩

theorem of_fades (h : Γ.Suits s m) (hm : m.Fades m') : Γ.Suits s m' :=
  ⟨h.fit.of_fades hm, h.covers.of_sameHoldings hm.holdings⟩

theorem of_fitSince (h : Γ.Suits s before) (hm : Γ.FitSince before m) : Γ.Suits s m :=
  ⟨hm.fit, h.covers.of_sameHoldings (.of_sameButCells hm.same)⟩

theorem of_excuses [Link σ] (h : Γ.Suits s before) {permitted : ClientError → Prop} {e : ClientError}
    (he : Γ.Excuses σ before e m) : Γ.Endures σ permitted s e m where
  permitted_of_internal hhonest hinternal := by
    rw [he.isInternal_eq_false hhonest] at hinternal
    cases hinternal
  canSuit := (h.of_fitSince he.toFitSince).canSuit

end Suits

theorem Endures.mono [Link σ] {Γ' : Roles} (hle : Γ.ExtendedBy Γ') {permitted : ClientError → Prop}
    {e : ClientError} (h : Γ'.Endures σ permitted s e m) : Γ.Endures σ permitted s e m := by
  obtain ⟨hpermitted, Γ'', hle', hsuits⟩ := h
  exact ⟨hpermitted, Γ'', hle.trans hle', hsuits⟩

end Roles

/-- What keeps the roles of objects fitting keeps those of a simulation suiting. -/
theorem Action.Meets.lift [Link σ] {x : Action σ α} {permitted : ClientError → Prop}
    (h : ∀ before, Γ.Covers s before →
      x.Meets (Γ.FitSince before) (fun _ => Γ.FitSince before) (Γ.Excuses σ before)) :
    x.Meets (Γ.Suits s) (fun _ => Γ.Suits s) (Γ.Endures σ permitted s) := by
  refine .named fun before hsuits => (h before hsuits.covers).mono ?_ ?_ ?_
  · rintro m rfl
    exact .start hsuits.fit
  · exact fun _ m hm => hsuits.of_fitSince hm
  · exact fun e m he => hsuits.of_excuses he

/-! ### New objects -/

/-- Since some moment the memory has changed as `R` allows, and roles for the objects that were made
meanwhile name those of the registry. -/
structure Roles.Grown (R : Memory → Memory → Prop) (Γ : Roles) (before : Memory) (k : Kind)
    (objects : Registry) (m : Memory) : Prop where
  placed : Γ.Placed before
  passes : R before m
  named : ∃ Γ' : Roles, (∀ h < before.nextHandle, Γ' h = Γ h) ∧ Γ'.Placed m ∧ Γ'.Names k objects

/-- Some roles that extend these fit the memory and name the objects of the registry. -/
def Roles.CanName (Γ : Roles) (k : Kind) (objects : Registry) (m : Memory) : Prop :=
  ∃ Γ', Γ.ExtendedBy Γ' ∧ Γ'.Fit m ∧ Γ'.Names k objects

namespace Roles.Grown

variable {R : Memory → Memory → Prop} {k : Kind} {objects : Registry}

theorem erase (h : Γ.Grown R before k objects m) (id : String) :
    Γ.Grown R before k (objects.erase id) m := by
  obtain ⟨Γ', hsame, hplaced, hnames⟩ := h.named
  exact ⟨h.placed, h.passes, Γ', hsame, hplaced, hnames.erase id⟩

/-- An object that was named before may be registered. -/
theorem insert_known (h : Γ.Grown R before k objects m) {id : String} {x : Handle}
    (hx : Γ x = some (.entity k id)) : Γ.Grown R before k (objects.insert id x) m := by
  obtain ⟨Γ', hsame, hplaced, hnames⟩ := h.named
  exact ⟨h.placed, h.passes, Γ', hsame, hplaced, hnames.insert (h.placed.extendedBy hsame x _ hx)⟩

/-- If the memory only fades, the roles fit it. -/
theorem canName (h : Γ.Grown Memory.Fades before k objects m) (hfit : Γ.Fit before) :
    Γ.CanName k objects m := by
  obtain ⟨Γ', hsame, hplaced, hnames⟩ := h.named
  exact ⟨Γ', h.placed.extendedBy hsame, hfit.grown h.passes hsame hplaced, hnames⟩

variable (steady : Memory.Steady R)

include steady

theorem start (h : Γ.Placed m) (hnames : Γ.Names k objects) : Γ.Grown R m k objects m :=
  ⟨h, steady.refl m, Γ, fun _ _ => rfl, h, hnames⟩

theorem after (h : Γ.Grown R before k objects m) (hm : R m m') : Γ.Grown R before k objects m' := by
  obtain ⟨Γ', hsame, hplaced, hnames⟩ := h.named
  exact ⟨h.placed, steady.trans h.passes hm, Γ', hsame, hplaced.of_proceeds (steady.proceeds hm),
    hnames⟩

/-- A new object is named when it is registered. -/
theorem insert_new (h : Γ.Grown R before k objects m) (id : String) (hm : R m m')
    (hlt : m.nextHandle < m'.nextHandle) :
    Γ.Grown R before k (objects.insert id m.nextHandle) m' := by
  obtain ⟨Γ', hsame, hplaced, hnames⟩ := h.named
  have hle := (steady.proceeds h.passes).nextHandle_le
  have hnamed := (hnames.mono (hplaced.extendedBy_assign (.entity k id))).insert (assign_self Γ' _ _)
  refine ⟨h.placed, steady.trans h.passes hm, Γ'.assign m.nextHandle (.entity k id), ?_,
    hplaced.assign _ (steady.proceeds hm) hlt, hnamed⟩
  intro x hx
  rw [Placed.assign_of_lt Γ' _ (Nat.lt_of_lt_of_le hx hle), hsame x hx]

end Roles.Grown

/-! ### Ticks -/

theorem Simulation.standard_wholeQuery (owner : Handle) (index : Nat) (code : UInt8)
    (type : ValueType) : (Query.read (wholeQuery owner index code type)).Standard := by
  show Code.getSimulation < 0xf0 ∧ Code.isStatusOnly Code.getSimulation = false ∧
    Code.getSimulation ≠ Code.simulationStep
  decide

namespace Lifecycle

section Turn

variable {R : Memory → Memory → Prop} (steady : Memory.Steady R) {observers : List Observer}
  {listeners : List Listener} {time : Binary64} (heed : Heed R observers listeners)

include steady heed

theorem grown_arrive {state : Registry × Memory} (h : Γ.Grown R before .vehicle state.1 state.2)
    (id : String) : Γ.Grown R before .vehicle (arrive observers time state id).1
      (arrive observers time state id).2 := by
  have hpassed := steady.arrive heed steady.retire time state id
  rw [arrive_fst]
  exact (h.erase id).after steady hpassed

theorem grown_depart {state : Registry × Memory} (h : Γ.Grown R before .vehicle state.1 state.2)
    (id : String) : Γ.Grown R before .vehicle (depart observers time state id).1
      (depart observers time state id).2 := by
  have htold := steady.tellAll heed (.departed (Vehicle.sighting ⟨state.2.nextHandle, id⟩
    (state.2.addVehicle id time).2) time) (state.2.addVehicle id time).2
  exact h.insert_new steady id (steady.depart heed time state id)
    (Nat.lt_of_lt_of_le (Nat.lt_succ_self _) (steady.proceeds htold).nextHandle_le)

omit heed in
theorem grown_registerNew {state : Registry × Memory}
    (h : Γ.Grown R before .vehicle state.1 state.2) (id : String) :
    Γ.Grown R before .vehicle (registerNew time state id).1 (registerNew time state id).2 := by
  by_cases hmem : id ∈ state.1
  · rw [registerNew_of_mem hmem]
    exact h
  · rw [registerNew_of_not_mem hmem]
    exact h.insert_new steady id (steady.addVehicle id time state.2) (Nat.lt_succ_self _)

omit heed in
theorem grown_registerAll {live : Registry} (h : Γ.Grown R before .vehicle live m)
    (ids : List String) :
    Γ.Grown R before .vehicle (registerAll time ids live m).1 (registerAll time ids live m).2 :=
  List.foldlRecOn (motive := fun (st : Registry × Memory) => Γ.Grown R before .vehicle st.1 st.2) ids _
    h fun _ hst id _ => grown_registerNew steady hst id

/-- A tick can give roles to the vehicles that it makes. -/
theorem grown_turn {l : Lifecycle} (h : Γ.Grown R before .vehicle l.live m) (a : TickAnswer) :
    Γ.Grown R before .vehicle (turn observers listeners l a m).1.live
      (turn observers listeners l a m).2 := by
  have harrivals : Γ.Grown R before .vehicle (afterArrivals observers l a m).1
      (afterArrivals observers l a m).2 :=
    List.foldlRecOn (motive := fun (st : Registry × Memory) => Γ.Grown R before .vehicle st.1 st.2) _ _
      h fun _ hst id _ => grown_arrive steady heed hst id
  have hdepartures : Γ.Grown R before .vehicle (afterDepartures observers l a m).1
      (afterDepartures observers l a m).2 :=
    List.foldlRecOn (motive := fun (st : Registry × Memory) => Γ.Grown R before .vehicle st.1 st.2) _ _
      harrivals fun _ hst id _ => grown_depart steady heed hst id
  have hreturns : Γ.Grown R before .vehicle (afterReturns observers l a m).1
      (afterReturns observers l a m).2 := grown_registerAll steady hdepartures _
  rw [turn_fst]
  exact hreturns.after steady (steady.told heed l a m)

end Turn

/-! ### Asking -/

variable [Link σ] {l : Lifecycle}

/-- An answer that is remembered can be fetched. -/
theorem fetched_meets {α : Type} [Readable α] {q : ReadQuery} {J : Memory → Prop}
    (hserves : Γ.Serves q) (haccepts : Readable.Accepts α q.type)
    (hfit : ∀ m, J m → Γ.FitSince before m) (hcached : ∀ m, J m → ∃ v, q.cached? m.cells = some v) :
    (fetched α q : Action σ α).Meets J (fun _ => J) (Γ.Excuses σ before) := by
  refine .bind .memory fun m => ?_
  split
  · next v hv =>
    refine .ofExcept ?_ ?_
    · rintro a - m ⟨-, hm⟩
      exact hm
    · rintro e he m ⟨rfl, hm⟩
      obtain ⟨a, ha⟩ := Readable.ofValue_eq_ok haccepts ((hfit _ hm).fit.type_eq hserves hv)
      rw [ha] at he
      cases he
  · next hnone =>
    refine .throw ?_
    rintro m ⟨rfl, hm⟩
    obtain ⟨v, hv⟩ := hcached _ hm
    rw [hnone] at hv
    cases hv

/-- The batch of a tick. -/
def tickBatch (l : Lifecycle) : List Query :=
  [.step l.stepCell, .read l.activeQuery, .read l.teleportStartingQuery, .read l.teleportEndingQuery,
    .read l.arrivedQuery, .read l.timeQuery]

theorem read_mem_tickBatch {q : ReadQuery} :
    Query.read q ∈ l.tickBatch ↔ q = l.activeQuery ∨ q = l.teleportStartingQuery ∨
      q = l.teleportEndingQuery ∨ q = l.arrivedQuery ∨ q = l.timeQuery := by
  simp [tickBatch]

theorem change_not_mem_tickBatch (q : ChangeQuery) : Query.change q ∉ l.tickBatch := by
  simp [tickBatch]

theorem standard_of_mem_tickBatch : ∀ q ∈ l.tickBatch, q.Standard := by
  have hsimulation := Simulation.standard_wholeQuery 0 0 0 .int
  have hvehicle : Code.getVehicle < 0xf0 ∧ Code.isStatusOnly Code.getVehicle = false ∧
      Code.getVehicle ≠ Code.simulationStep := by decide
  unfold tickBatch
  simp only [List.forall_mem_cons]
  exact ⟨trivial, hvehicle, hsimulation, hsimulation, hsimulation, hsimulation, List.forall_mem_nil _⟩

theorem ready_of_mem_tickBatch (cells : Cells) : ∀ q ∈ l.tickBatch, q.Ready cells := by
  unfold tickBatch
  simp only [List.forall_mem_cons]
  exact ⟨trivial, nofun, nofun, nofun, nofun, nofun, List.forall_mem_nil _⟩

theorem serves_of_mem_tickBatch (hl : Γ l.handle = some .lifecycle) {q : ReadQuery}
    (hq : Query.read q ∈ l.tickBatch) : Γ.Serves q := by
  rcases read_mem_tickBatch.mp hq with rfl | rfl | rfl | rfl | rfl
  · exact Roles.serves_active hl
  · exact Roles.serves_teleportStarting hl
  · exact Roles.serves_teleportEnding hl
  · exact Roles.serves_arrived hl
  · exact Roles.serves_time hl

section Batch

variable {batch : List Query} (hl : Γ l.handle = some .lifecycle) (hsub : ∀ q ∈ batch, q ∈ l.tickBatch)

include hl hsub

/-- A batch of queries of a tick. -/
theorem dispatch_meets_of_subset :
    (Action.dispatch batch : Action σ Unit).Meets (Γ.FitSince before)
      (fun _ m => Γ.FitSince before m ∧ Answered batch m.cells) (Γ.Excuses σ before) := by
  refine (Roles.dispatch_meets ?_ ?_).mono ?_ (fun _ _ => id) fun _ _ => id
  · exact fun q hq => standard_of_mem_tickBatch q (hsub q hq)
  · exact fun q hq => serves_of_mem_tickBatch hl (hsub _ hq)
  · exact fun m hm => ⟨hm, fun q hq => ready_of_mem_tickBatch m.cells q (hsub q hq)⟩

variable {q : ReadQuery} (hq : Query.read q ∈ batch)

include hq

/-- What a batch has brought in can be fetched. -/
theorem fetched_meets_of_mem {α : Type} [Readable α] (haccepts : Readable.Accepts α q.type) :
    (fetched α q : Action σ α).Meets (fun m => Γ.FitSince before m ∧ Answered batch m.cells)
      (fun _ m => Γ.FitSince before m ∧ Answered batch m.cells) (Γ.Excuses σ before) := by
  refine fetched_meets (serves_of_mem_tickBatch hl (hsub _ hq)) haccepts (fun _ => And.left)
    fun _ hm => hm.2.cached_eq_some ?_ hq
  exact fun r hr => change_not_mem_tickBatch r (hsub _ hr)

theorem fetchedIds_meets_of_mem (haccepts : Readable.Accepts (List String) q.type) :
    (fetchedIds q : Action σ IdSet).Meets (fun m => Γ.FitSince before m ∧ Answered batch m.cells)
      (fun _ m => Γ.FitSince before m ∧ Answered batch m.cells) (Γ.Excuses σ before) :=
  .map _ (fetched_meets_of_mem hl hsub hq haccepts)

end Batch

theorem ask_meets (hl : Γ l.handle = some .lifecycle) (target : Binary64) :
    (l.ask target : Action σ TickAnswer).Meets (Γ.FitSince before) (fun _ => Γ.FitSince before)
      (Γ.Excuses σ before) := by
  obtain ⟨hdouble, -, -, htextList, -⟩ := Readable.accepts_table
  have hsub : ∀ q ∈ l.tickBatch, q ∈ l.tickBatch := fun _ => id
  have hmem : Query.read l.timeQuery ∈ l.tickBatch ∧ Query.read l.activeQuery ∈ l.tickBatch ∧
      Query.read l.teleportStartingQuery ∈ l.tickBatch ∧
      Query.read l.teleportEndingQuery ∈ l.tickBatch ∧ Query.read l.arrivedQuery ∈ l.tickBatch := by
    simp [tickBatch]
  obtain ⟨htime, hactive, hstarting, hending, harrived⟩ := hmem
  refine .bind (.update (Q := fun _ => Γ.FitSince before) ?_) fun _ => ?_
  · exact fun m hm => hm.mapCells ⟨Nat.le_refl _, rfl, fun _ _ => id⟩
  · refine .bind (dispatch_meets_of_subset hl hsub) fun _ => ?_
    refine .bind (fetched_meets_of_mem hl hsub htime hdouble) fun _ => ?_
    refine .bind (fetchedIds_meets_of_mem hl hsub hactive htextList) fun _ => ?_
    refine .bind (fetchedIds_meets_of_mem hl hsub hstarting htextList) fun _ => ?_
    refine .bind (fetchedIds_meets_of_mem hl hsub hending htextList) fun _ => ?_
    refine .bind (fetched_meets_of_mem hl hsub harrived htextList) fun _ => ?_
    exact .pure fun _ hm => hm.1

end Lifecycle

/-! ### The tick as a whole -/

/-- A simulation that has only gone on in time is worked with in the same way. -/
def Simulation.SameButLifecycle (s s' : Simulation) : Prop := s' = { s with lifecycle := s'.lifecycle }

/-- The vehicles that the second half of a tick makes can get roles, and the others keep theirs. -/
theorem Roles.Maps.turn {R : Memory → Memory → Prop} (steady : Memory.Steady R) (h : Γ.Maps s m)
    (heed : Lifecycle.Heed R s.observers s.listeners) (a : TickAnswer) :
    R m (s.lifecycle.turn s.observers s.allListeners a m).2 ∧
      ∃ Γ' : Roles, (∀ x < m.nextHandle, Γ' x = Γ x) ∧
        Γ'.Maps { s with lifecycle := (s.lifecycle.turn s.observers s.allListeners a m).1 }
          (s.lifecycle.turn s.observers s.allListeners a m).2 := by
  have hgrown := Lifecycle.grown_turn steady (steady.allListeners heed)
    (.start steady h.placed h.covers.live) a
  obtain ⟨Γ', hsame, hplaced, hnames⟩ := hgrown.named
  have hcovers := (h.covers.mono (h.placed.extendedBy hsame)).of_sameHoldings
    (steady.proceeds hgrown.passes).holdings
  exact ⟨hgrown.passes, Γ', hsame, hplaced, hcovers.simulation, hcovers.lifecycle, hcovers.repository,
    hnames, hcovers.held⟩

/-- Roles that suit a simulation suit it after the second half of a tick, or can be extended to. -/
theorem Roles.Suits.turn (h : Γ.Suits s m) (heed : Lifecycle.Heed Memory.Fades s.observers s.listeners)
    (a : TickAnswer) :
    Γ.CanSuit { s with lifecycle := (s.lifecycle.turn s.observers s.allListeners a m).1 }
      (s.lifecycle.turn s.observers s.allListeners a m).2 := by
  obtain ⟨hfades, Γ', hsame, hmaps⟩ := h.maps.turn Memory.Fades.steady heed a
  exact ⟨Γ', h.fit.toPlaced.extendedBy hsame, h.fit.grown hfades hsame hmaps.placed, hmaps.covers⟩

variable [Link σ] {permitted : ClientError → Prop}

theorem Simulation.advance_meets (heed : Lifecycle.Heed Memory.Fades s.observers s.listeners)
    (target : Binary64) :
    (s.lifecycle.advance target s.observers s.allListeners : Action σ (StepEvents × Lifecycle)).Meets
      (Γ.Suits s) (fun r m => Γ.CanSuit { s with lifecycle := r.2 } m) (Γ.Endures σ permitted s) := by
  refine .bind (.lift fun _ hcovers => Lifecycle.ask_meets hcovers.lifecycle target) fun a => ?_
  refine .bind (Q := fun l m => Γ.CanSuit { s with lifecycle := l } m) (.modifyMemory ?_) fun l => ?_
  · exact fun m hm => hm.turn heed a
  · exact .pure fun m hm => hm

theorem Simulation.stepTo_meets (heed : Lifecycle.Heed Memory.Fades s.observers s.listeners)
    (target : Binary64) :
    (s.stepTo target : Action σ (StepEvents × Simulation)).Meets (Γ.Suits s)
      (fun r m => s.SameButLifecycle r.2 ∧ Γ.CanSuit r.2 m) (Γ.Endures σ permitted s) :=
  .bind (advance_meets heed target) fun _ => .pure fun _ hm => ⟨rfl, hm⟩

end TrafficControl
