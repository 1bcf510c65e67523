import TrafficControl.Proofs.Traffic.Detached
import TrafficControl.Proofs.Traffic.Operations

/-!
# Retirement is final

A vehicle that arrives is retired. Whoever still holds its object can ask for nothing any more: every
accessor and every setter looks first whether the vehicle is there, and fails before anything is built or
sent. Nothing that a client does later brings the vehicle back, and an id that departs again gets another
object.

* `Use.run_of_retired`: what is asked of a retired vehicle changes nothing and fails.
* `Operation.run_cases`: an operation of a simulation is a tick, or it leaves all vehicles alone.
* `Run.gone_of_arrived`: what arrived at some tick of a run is retired, and is not registered again.
* `retirement_is_final`: these together, and what a later departure registers.
-/

namespace TrafficControl

variable {σ α β : Type}

/-! ### What is asked of a retired vehicle -/

section Retired

variable {v : Vehicle} {c : Client σ} (h : (c.memory.vehicle v.handle).retired = true)

include h

theorem Vehicle.ensurePresent_of_retired : v.ensurePresent c = .error (.retired v.id) c := by
  rw [Vehicle.ensurePresent, EStateM.bind_of_ok (x := Action.memory) rfl, if_pos h]
  rfl

theorem Vehicle.read_of_retired [Link σ] [Readable α] (x : VehicleVariable) :
    Vehicle.read α v x c = .error (.retired v.id) c :=
  EStateM.bind_of_error (Vehicle.ensurePresent_of_retired h)

theorem Vehicle.alter_of_retired [Link σ] (change : Change .vehicle) (value : Value) :
    v.alter change value c = .error (.retired v.id) c :=
  EStateM.bind_of_error (Vehicle.ensurePresent_of_retired h)

/-- Whatever a retired vehicle is asked or told, it fails, and the client is as it was: its link, its count of
round trips and all that it remembers. -/
theorem Use.run_of_retired [Link σ] (u : Use .vehicle) : u.run v c = .error (.retired v.id) c := by
  cases u with
  | speed | position | roadId | route | color =>
    exact EStateM.map_eq_error_iff.mpr (Vehicle.read_of_retired h _)
  | changeTarget | setColor | setMaxSpeed | remove => exact Vehicle.alter_of_retired h _ _

end Retired

/-! ### What leaves vehicles alone -/

/-- An action that makes new objects at most, and changes no record of a vehicle. -/
abbrev Action.SparesVehicles (x : Action σ α) : Prop := x.Leaves Memory.Keeps

namespace Action.SparesVehicles

theorem of_cellsOnly {x : Action σ α} (hx : x.CellsOnly) : x.SparesVehicles :=
  hx.mono fun _ _ => .of_sameButCells

theorem bind {x : Action σ α} {f : α → Action σ β} (hx : x.SparesVehicles)
    (hf : ∀ a, (f a).SparesVehicles) : (x >>= f).SparesVehicles :=
  Leaves.bind (R := Memory.Keeps) (fun _ _ _ => Memory.Keeps.trans) hx hf

theorem pure (a : α) : (Pure.pure a : Action σ α).SparesVehicles := of_cellsOnly (.pure a)

theorem update {f : Memory → Memory} (hf : ∀ m, Memory.Keeps m (f m)) :
    (Action.update f : Action σ Unit).SparesVehicles := fun c => hf c.memory

theorem fresh : (Action.fresh : Action σ Handle).SparesVehicles :=
  fun _ => ⟨Nat.le_succ _, fun _ _ => rfl⟩

end Action.SparesVehicles

theorem Vehicle.ensurePresent_cellsOnly (v : Vehicle) :
    (v.ensurePresent : Action σ Unit).CellsOnly := by
  refine .bind .memory fun m => ?_
  split
  · exact .throw _
  · exact .pure _

theorem Simulation.factory_sparesVehicles (s : Simulation) (k : Kind) (id : String) :
    (s.factory k id : Action σ Handle).SparesVehicles := by
  cases k with
  | vehicle =>
    show (Simulation.vehicleFactory s.lifecycle.live id : Action σ Handle).SparesVehicles
    unfold Simulation.vehicleFactory
    split
    · exact .pure _
    · exact .of_cellsOnly (.throw _)
  | edge | lane | trafficLight => exact .fresh

theorem Repository.gather_sparesVehicles {factory : String → Action σ Handle}
    (hfactory : ∀ id, (factory id).SparesVehicles) (held : Registry) (ids : List String)
    (found : Registry) : (gather factory held ids found).SparesVehicles := by
  induction ids generalizing found with
  | nil => exact .pure _
  | cons id ids ih =>
    by_cases hmem : found.contains id = true
    · rw [gather, if_pos hmem]
      exact ih found
    · rw [gather_of_new hmem]
      refine .bind ?_ fun h => ih _
      unfold pick
      split
      · exact .pure _
      · exact hfactory id

variable [Link σ]

theorem Entity.read_cellsOnly [Readable α] {k : Kind} (e : Entity k) (x : k.Variable) :
    (e.read α x : Action σ α).CellsOnly :=
  ReadQuery.getAs_cellsOnly α _

theorem Vehicle.read_cellsOnly [Readable α] (v : Vehicle) (x : VehicleVariable) :
    (Vehicle.read α v x : Action σ α).CellsOnly :=
  .bind v.ensurePresent_cellsOnly fun _ => Entity.read_cellsOnly (k := .vehicle) v x

theorem ChangeQuery.runWith_cellsOnly (q : ChangeQuery) (value : Value) :
    (q.runWith value : Action σ Unit).CellsOnly :=
  .bind (.updateCells _) fun _ => Action.dispatch_cellsOnly _

theorem Vehicle.alter_cellsOnly (v : Vehicle) (change : Change .vehicle) (value : Value) :
    (v.alter change value : Action σ Unit).CellsOnly :=
  .bind v.ensurePresent_cellsOnly fun _ => ChangeQuery.runWith_cellsOnly _ _

theorem Edge.travelTime_cellsOnly (e : Edge) (time : Binary64) :
    (e.travelTime time : Action σ Binary64).CellsOnly :=
  .bind (.updateCells _) fun _ => ReadQuery.getAs_cellsOnly _ _

/-- What an entity is asked or told changes nothing but what is remembered about queries. -/
theorem Use.run_cellsOnly {k : Kind} (u : Use k) (e : Entity k) :
    (u.run e : Action σ Unit).CellsOnly := by
  cases u with
  | speed | position | roadId | route | color => exact .discard (Vehicle.read_cellsOnly _ _)
  | changeTarget | setColor | setMaxSpeed | remove => exact Vehicle.alter_cellsOnly e _ _
  | travelTime time => exact .discard (Edge.travelTime_cellsOnly e time)
  | meanSpeed | edgeVehicleCount | edgeVehicleIds | length | laneMaxSpeed | shape | edgeId
  | laneVehicleCount | state | phase | program | nextSwitch | controlledLanes =>
    exact .discard (e.read_cellsOnly _)
  | setTravelTime | setLaneMaxSpeed | setPhase | setProgram =>
    exact ChangeQuery.runWith_cellsOnly _ _

namespace Simulation

variable (s : Simulation) (k : Kind)

theorem ids_sparesVehicles :
    ((s.repository k).ids (s.factory k) : Action σ (List String)).SparesVehicles := by
  refine .bind (.of_cellsOnly (ReadQuery.getAs_cellsOnly _ _)) fun listed => ?_
  refine .bind (.of_cellsOnly .memory) fun m => ?_
  refine .bind (Repository.gather_sparesVehicles (s.factory_sparesVehicles k) _ _ _) fun found => ?_
  exact .bind (.update fun m => ⟨Nat.le_refl _, fun _ _ => rfl⟩) fun _ => .pure _

theorem find?_sparesVehicles (id : String) :
    ((s.repository k).find? (s.factory k) id : Action σ (Option (Entity k))).SparesVehicles :=
  .bind (.discard (s.ids_sparesVehicles k)) fun _ => .bind (.of_cellsOnly .memory) fun _ => .pure _

theorem all_sparesVehicles :
    ((s.repository k).all (s.factory k) : Action σ (List (Entity k))).SparesVehicles :=
  .bind (.discard (s.ids_sparesVehicles k)) fun _ => .bind (.of_cellsOnly .memory) fun _ => .pure _

theorem edgeTravelTime_sparesVehicles (id : String) :
    (s.edgeTravelTime id : Action σ (Option Binary64)).SparesVehicles := by
  refine .bind (s.find?_sparesVehicles .edge id) fun found => ?_
  split
  · exact .of_cellsOnly (.map _ (Edge.travelTime_cellsOnly _ _))
  · exact .pure _

theorem addVehicle_sparesVehicles (id : String) (descriptor : VehicleDescriptor) :
    (addVehicle id descriptor : Action σ Unit).SparesVehicles :=
  .bind .fresh fun _ => .of_cellsOnly (ChangeQuery.runWith_cellsOnly _ _)

theorem version_cellsOnly : (s.version : Action σ (Int32 × String)).CellsOnly := by
  refine .bind .memory fun m => ?_
  split
  · exact .pure _
  · refine .bind (Action.dispatch_cellsOnly _) fun _ => .bind .memory fun m => ?_
    split
    · exact .pure _
    · exact .throw _

theorem close_sparesVehicles : (s.close : Action σ Unit).SparesVehicles :=
  .bind (.of_cellsOnly (Action.dispatch_cellsOnly _)) fun _ => .update fun m => .addLog _ m

end Simulation

/-- An operation is a tick, or it leaves all vehicles alone and the simulation as it is. -/
theorem Operation.run_cases (op : Operation) (s : Simulation) :
    (∃ target, (op.run s : Action σ Simulation) = Prod.snd <$> s.stepTo target) ∨
      ∃ x : Action σ Unit, x.SparesVehicles ∧ op.run s = (do x; pure s) := by
  cases op with
  | stepTo target => exact .inl ⟨target, rfl⟩
  | step => exact .inl ⟨_, rfl⟩
  | edgeTravelTime id => exact .inr ⟨_, .discard (s.edgeTravelTime_sparesVehicles id), rfl⟩
  | addVehicle id descriptor =>
    exact .inr ⟨_, Simulation.addVehicle_sparesVehicles id descriptor, rfl⟩
  | minExpected | netBoundary =>
    exact .inr ⟨_, Action.SparesVehicles.of_cellsOnly (.discard (ReadQuery.getAs_cellsOnly _ _)), rfl⟩
  | version => exact .inr ⟨_, Action.SparesVehicles.of_cellsOnly (.discard s.version_cellsOnly), rfl⟩
  | close => exact .inr ⟨_, s.close_sparesVehicles, rfl⟩
  | ids k => exact .inr ⟨_, .discard (s.ids_sparesVehicles k), rfl⟩
  | find k id => exact .inr ⟨_, .discard (s.find?_sparesVehicles k id), rfl⟩
  | all k => exact .inr ⟨_, .discard (s.all_sparesVehicles k), rfl⟩
  | use e u => exact .inr ⟨_, Action.SparesVehicles.of_cellsOnly (u.run_cellsOnly e), rfl⟩

namespace Lifecycle

/-! ### What a tick does to what has gone -/

/-- An object is retired, and it is not the one that is registered under an id. -/
structure Gone (id : String) (h : Handle) (l : Lifecycle) (m : Memory) : Prop where
  bound : h < m.nextHandle
  retired : (m.vehicle h).retired = true
  unregistered : l.live[id]? ≠ some h

section Turn

variable {observers : List Observer} {listeners : List Listener} {l : Lifecycle} {a : TickAnswer}
  {m m' : Memory} {id : String} {h : Handle}

theorem Gone.grows (hgone : Gone id h l m) (hm : m.Grows m') : Gone id h l m' where
  bound := Nat.lt_of_lt_of_le hgone.bound hm.nextHandle_le
  retired := hm.retired h hgone.bound hgone.retired
  unregistered := hgone.unregistered

/-- What has gone stays gone: a tick registers new objects only. -/
theorem Gone.turn (heed : Heed Memory.Grows observers listeners) (hgone : Gone id h l m) :
    Gone id h (turn observers listeners l a m).1 (turn observers listeners l a m).2 where
  bound := (hgone.grows (grows_turn heed l a m)).bound
  retired := (hgone.grows (grows_turn heed l a m)).retired
  unregistered hlive := by
    rcases turn_live_cases heed hlive with ⟨hold, -, -⟩ | ⟨hle, -⟩
    · exact hgone.unregistered hold
    · exact Nat.not_lt_of_le hle hgone.bound

/-- What arrives is gone after the tick. -/
theorem gone_of_arrived (heed : Heed Memory.Grows observers listeners) (hlive : l.live[id]? = some h)
    (hbound : h < m.nextHandle) (harr : id ∈ l.arrivedIds a) :
    Gone id h (turn observers listeners l a m).1 (turn observers listeners l a m).2 where
  bound := Nat.lt_of_lt_of_le hbound (grows_turn heed l a m).nextHandle_le
  retired := retired_of_arrived heed hlive hbound harr
  unregistered hafter := by
    rcases turn_live_cases heed hafter with ⟨-, hnot, -⟩ | ⟨hle, -⟩
    · exact hnot harr
    · exact Nat.not_lt_of_le hle hbound

/-- The object that a departure registers is new, and it is not retired if those who are told leave the
vehicles alone. -/
theorem registered_of_departed (heed : Heed Memory.Grows observers listeners)
    (hdep : id ∈ l.departedIds a) :
    ∃ h, (turn observers listeners l a m).1.live[id]? = some h ∧ m.nextHandle ≤ h ∧
      (Heed Memory.Keeps observers listeners →
        (turn observers listeners l a m).2.vehicle h = { departTime := a.time }) := by
  obtain ⟨earlier, later, hsplit⟩ := List.append_of_mem hdep
  rw [List.append_cons] at hsplit
  -- the moment at which the turn of `id` comes
  obtain ⟨state, hstate⟩ :
      ∃ state, earlier.foldl (depart observers a.time) (afterArrivals observers l a m) = state := ⟨_, rfl⟩
  have hlive : (turn observers listeners l a m).1.live[id]? = some state.2.nextHandle := by
    rw [turn_live_of_departing m hsplit (List.mem_append_right _ (List.mem_singleton_self id)),
      List.foldl_append, hstate, List.foldl_cons, List.foldl_nil, depart_fst,
      Std.ExtTreeMap.getElem?_insert_self]
  refine ⟨state.2.nextHandle, hlive, ?_, fun hkeeps => ?_⟩
  · rcases turn_live_cases heed hlive with ⟨-, -, hnot⟩ | ⟨hle, -⟩
    · exact absurd hdep hnot
    · exact hle
  · have hmade : ((depart observers a.time state id).2.vehicle state.2.nextHandle) =
        { departTime := a.time } := by
      have htold := Memory.Keeps.lasting.tellAll hkeeps (.departed (Vehicle.sighting
        ⟨state.2.nextHandle, id⟩ (state.2.addVehicle id a.time).2) a.time) (state.2.addVehicle id a.time).2
      refine (htold.vehicle_eq _ (Nat.lt_succ_self _)).trans ?_
      rw [Memory.vehicle_addVehicle, if_pos rfl]
    have hdeparted : (depart observers a.time state id).2.Keeps (afterDepartures observers l a m).2 := by
      rw [afterDepartures, hsplit, List.foldl_append, List.foldl_append, hstate, List.foldl_cons,
        List.foldl_nil]
      exact Memory.Keeps.lasting.foldl_snd (Memory.Keeps.lasting.depart hkeeps a.time) later _
    have hafter : (depart observers a.time state id).2.Keeps (turn observers listeners l a m).2 :=
      hdeparted.trans ((Memory.Keeps.lasting.registerAll _ _ _ _).trans
        (Memory.Keeps.lasting.told hkeeps l a m))
    rw [hafter.vehicle_eq _ (nextHandle_depart heed state id), hmade]

end Turn

/-! ### Runs -/

variable {others : Memory → Memory → Prop} {ticks : List Tick} {l : Lifecycle} {c : Client σ}

/-- What arrived at some tick of a run is gone. -/
theorem Run.gone_of_arrived (run : Run others ticks l c) (hothers : ∀ m m', others m m' → m.Grows m')
    {t : Tick} (ht : t ∈ ticks) {id : String} {h : Handle} (hlive : t.before.live[id]? = some h)
    (harr : id ∈ t.events.arrived) : Gone id h l c.memory := by
  induction run with
  | bootstrapped => cases ht
  | bootstrapFailed => cases ht
  | @advanced ticks l l' c c₁ c' target observers listeners a events run heed hask hadv ih =>
    obtain ⟨-, rfl, hmem⟩ := advance_eq_ok_of_ask hask hadv
    have hasked := (ask_cellsOnly l target).of_ok hask
    rw [hmem]
    rcases List.mem_cons.mp ht with rfl | ht
    · refine Lifecycle.gone_of_arrived (heed.mono hothers) hlive ?_ harr
      exact hasked.nextHandle_eq.symm ▸ run.bound hothers hlive
    · exact ((ih ht).grows (Memory.Keeps.of_sameButCells hasked).grows).turn (heed.mono hothers)
  | failed run hadv ih => exact (ih ht).grows (Memory.Keeps.of_sameButCells (advance_eq_error hadv)).grows
  | elsewhere run hother ih => exact (ih ht).grows (hothers _ _ hother)

/-- Who arrives at a tick of a run has an object before it. -/
theorem Run.live_of_arrived (run : Run others ticks l c) {t : Tick} (ht : t ∈ ticks) {id : String}
    (harr : id ∈ t.events.arrived) : ∃ h, t.before.live[id]? = some h := by
  induction run with
  | bootstrapped => cases ht
  | bootstrapFailed => cases ht
  | advanced run _ _ _ ih =>
    rcases List.mem_cons.mp ht with rfl | ht
    · exact Registry.mem_iff_exists.mp (registered_of_arrived run.tracked.registered harr)
    · exact ih ht
  | failed _ _ ih => exact ih ht
  | elsewhere _ _ ih => exact ih ht

/-- A simulation that starts has a lifecycle with a run. -/
theorem Run.of_start {given : Option Binary64} {s : Simulation} {c c' : Client σ}
    (h : Simulation.start given c = .ok s c') : Run Memory.Grows [] s.lifecycle c' := by
  obtain ⟨length, c₁, l, c₂, -, hboot, rfl, rfl⟩ := Simulation.bootstrapped_of_start h
  exact (Run.bootstrapped hboot).elsewhere (Memory.Keeps.addLog _ _).grows

/-- Every operation of a simulation takes the run of its lifecycle further. -/
theorem Run.operation {s : Simulation} (run : Run Memory.Grows ticks s.lifecycle c)
    (heed : Heed Memory.Grows s.observers s.listeners) (op : Operation) :
    (∀ s' c', op.run s c = .ok s' c' →
      s.SameButLifecycle s' ∧ ∃ newer, Run Memory.Grows (newer ++ ticks) s'.lifecycle c') ∧
    ∀ e c', op.run s c = .error e c' → Run Memory.Grows ticks s.lifecycle c' := by
  rcases op.run_cases (σ := σ) s with ⟨target, hop⟩ | ⟨x, hspares, hop⟩
  · rw [hop]
    constructor
    · intro s' c' h
      obtain ⟨⟨events, s''⟩, hstep, rfl⟩ := EStateM.map_eq_ok_iff.mp h
      obtain ⟨l', hadvance, rfl⟩ := Simulation.stepTo_eq_ok hstep
      obtain ⟨a, -, further⟩ := run.tick (Memory.Grows.lasting.allListeners heed) hadvance
      exact ⟨rfl, [⟨s.lifecycle, a⟩], further⟩
    · intro e c' h
      have hsame := Simulation.stepTo_eq_error (EStateM.map_eq_error_iff.mp h)
      exact run.elsewhere (Memory.Keeps.of_sameButCells hsame).grows
  · rw [hop]
    constructor
    · intro s' c' h
      obtain ⟨_, c₁, hx, h⟩ := EStateM.bind_eq_ok_iff.mp h
      cases h
      exact ⟨rfl, [], run.elsewhere (hspares.of_ok hx).grows⟩
    · intro e c' h
      rcases EStateM.bind_eq_error_iff.mp h with hx | ⟨_, c₁, -, h⟩
      · exact run.elsewhere (hspares.of_error hx).grows
      · cases h

/-- A run in which nobody brings vehicles back, and an id that a tick of it reports as arrived, at any time
since. (1) Before that tick an object was registered under the id. Whoever still holds it, every accessor and
setter fails with the same words and leaves the client as it was, link and all; and the object is not registered
again. (2) If the next tick reports the id as departed, a new object is registered. It is not retired, as long
as those who are told about the tick leave the vehicles alone. (3) Whatever is done next with a simulation whose
lifecycle this is, a tick or a listing or a change of any entity, is a run again. -/
theorem retirement_is_final (run : Run Memory.Grows ticks l c) :
    (∀ t ∈ ticks, ∀ id ∈ t.events.arrived, ∃ h, t.before.live[id]? = some h ∧
      (∀ u : Use .vehicle, u.run ⟨h, id⟩ c = .error (.retired id) c) ∧ l.live[id]? ≠ some h) ∧
    (∀ target observers listeners events l' c', Heed Memory.Grows observers listeners →
      l.advance target observers listeners c = .ok (events, l') c' →
      ∀ t ∈ ticks, ∀ id ∈ t.events.arrived, id ∈ events.departed →
        ∃ h h', t.before.live[id]? = some h ∧ l'.live[id]? = some h' ∧ h' ≠ h ∧
          (Heed Memory.Keeps observers listeners → (c'.memory.vehicle h').retired = false)) ∧
    ∀ s : Simulation, s.lifecycle = l → Heed Memory.Grows s.observers s.listeners → ∀ op : Operation,
      (∀ s' c', op.run s c = .ok s' c' → s.SameButLifecycle s' ∧
        ∃ newer, Run Memory.Grows (newer ++ ticks) s'.lifecycle c') ∧
      ∀ e c', op.run s c = .error e c' → Run Memory.Grows ticks l c' := by
  refine ⟨?_, ?_, ?_⟩
  · intro t ht id harr
    obtain ⟨h, hlive⟩ := run.live_of_arrived ht harr
    have hgone := run.gone_of_arrived (fun _ _ hm => hm) ht hlive harr
    exact ⟨h, hlive, fun u => u.run_of_retired (v := ⟨h, id⟩) hgone.retired, hgone.unregistered⟩
  · intro target observers listeners events l' c' heed hadv t ht id harr hdep
    obtain ⟨h, hlive⟩ := run.live_of_arrived ht harr
    have hgone := run.gone_of_arrived (fun _ _ hm => hm) ht hlive harr
    obtain ⟨a, c₁, hask, rfl, rfl, hmem⟩ := advance_eq_ok hadv
    obtain ⟨h', hlive', hnew, hrecord⟩ := registered_of_departed heed hdep (m := c₁.memory)
    refine ⟨h, h', hlive, hlive', ?_, fun hkeeps => ?_⟩
    · have hbound := hgone.bound
      rw [← ((ask_cellsOnly l target).of_ok hask).nextHandle_eq] at hbound
      exact (Nat.ne_of_lt (Nat.lt_of_lt_of_le hbound hnew)).symm
    · rw [hmem, hrecord hkeeps]
  · rintro s rfl heed op
    exact run.operation heed op

/-- A vehicle arrives, and another one departs under its id. -/
theorem departed_again_other_object :
    ∃ (t : Tick) (l : Lifecycle) (c : Client Stream), Run Memory.Grows [t] l c ∧
      "v0" ∈ t.events.arrived ∧ ∃ events l' c', l.advance .zero [] [] c = .ok (events, l') c' ∧
        "v0" ∈ events.departed ∧ ∃ h h', t.before.live["v0"]? = some h ∧ l'.live["v0"]? = some h' ∧
          h' ≠ h ∧ (c'.memory.vehicle h').retired = false ∧
          Use.speed.run ⟨h, "v0"⟩ c' = .error (.retired "v0") c' ∧
          Use.remove.run ⟨h, "v0"⟩ c' = .error (.retired "v0") c' := by
  have hplay : (Simulation.start (some .zero)).succeedsWith (fun s =>
      (s.lifecycle.advance .zero [] []).succeedsWith fun r c =>
        r.1.arrived == ["v0"] && (r.2.advance .zero [] []).succeedsWith
          (fun r _ => r.1.departed == ["v0"]) c)
      ({ link := .awaiting [bootstrapReply { handle := 0 } { active := ["v0"] },
        tickReply { handle := 0 } {}, tickReply { handle := 0 } { active := ["v0"] }] } :
        Client Stream) = true := by
    decide +kernel
  obtain ⟨s, c₀, hstart, hplay⟩ := Action.of_succeedsWith hplay
  obtain ⟨⟨events₁, l₁⟩, c₁, hadvance₁, hplay⟩ := Action.of_succeedsWith hplay
  obtain ⟨harrived, hplay⟩ := Bool.and_eq_true_iff.mp hplay
  obtain ⟨⟨events₂, l₂⟩, c₂, hadvance₂, hdeparted⟩ := Action.of_succeedsWith hplay
  obtain ⟨a₁, rfl, run₁⟩ := (Run.of_start hstart).tick (.nobody Memory.Grows) hadvance₁
  obtain ⟨a₂, -, run₂⟩ := run₁.tick (.nobody Memory.Grows) hadvance₂
  have harr : "v0" ∈ (⟨s.lifecycle, a₁⟩ : Tick).events.arrived := by
    rw [show (⟨s.lifecycle, a₁⟩ : Tick).events.arrived = ["v0"] from beq_iff_eq.mp harrived]
    exact List.mem_singleton_self _
  have hdep : "v0" ∈ events₂.departed := by
    rw [beq_iff_eq.mp hdeparted]
    exact List.mem_singleton_self _
  obtain ⟨h, h', hlive, hlive', hne, hpresent⟩ := (retirement_is_final run₁).2.1 .zero [] [] events₂ l₂ c₂
    (.nobody _) hadvance₂ ⟨s.lifecycle, a₁⟩ List.mem_cons_self "v0" harr hdep
  obtain ⟨h₂, hlive₂, hfails, -⟩ := (retirement_is_final run₂).1 ⟨s.lifecycle, a₁⟩
    (List.mem_cons_of_mem _ List.mem_cons_self) "v0" harr
  rw [hlive] at hlive₂
  cases hlive₂
  exact ⟨⟨s.lifecycle, a₁⟩, l₁, c₁, run₁, harr, events₂, l₂, c₂, hadvance₂, hdep, h, h', hlive, hlive', hne,
    hpresent (.nobody _), hfails .speed, hfails .remove⟩

end Lifecycle

end TrafficControl
