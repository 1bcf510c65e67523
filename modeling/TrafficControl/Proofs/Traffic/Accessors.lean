import TrafficControl.Proofs.Query.Faultless
import TrafficControl.Proofs.Query.Frames
import TrafficControl.Proofs.Traffic.Roles

/-!
# What reads, changes and accessors meet

As long as roles fit what is remembered, batches whose queries have their place in the roles keep them
fitting, and fail by no fault of the client. This goes for a read on its own, as what its value stands
for, for a change that is sent with its value, and hence for everything that an entity can be asked or
told (`Use.run_meets`). The type that an accessor reads its value as accepts the type that is declared
for its variable, so that no value is ever refused.

* `Roles.dispatch_meets`: batches.
* `ReadQuery.getAs_meets`, `ChangeQuery.runWith_meets`: queries on their own.
* `Use`: the accessors and setters of entities.
-/

namespace TrafficControl

variable {σ : Type} {Γ : Roles} {before : Memory}

/-- The roles fit, and nothing but cells has changed since some moment. -/
structure Roles.FitSince (Γ : Roles) (before m : Memory) : Prop where
  fit : Γ.Fit m
  same : before.SameButCells m

/-- A failure that is not the client's own fault, if the link blames nothing on its client, and after
which the roles still fit. -/
structure Roles.Excuses (Γ : Roles) (σ : Type) [Link σ] (before : Memory) (e : ClientError)
    (m : Memory) : Prop extends Γ.FitSince before m where
  isInternal_eq_false : HonestLink σ → e.isInternal = false

theorem Roles.FitSince.start {m : Memory} (h : Γ.Fit m) : Γ.FitSince m m := ⟨h, .refl m⟩

/-- Cells may be changed as long as no answer is new. -/
theorem Roles.FitSince.mapCells {before m : Memory} (h : Γ.FitSince before m) {f : Cells → Cells}
    (hf : m.Fades (m.mapCells f)) : Γ.FitSince before (m.mapCells f) :=
  ⟨h.fit.of_fades hf, h.same.trans (.mapCells f m)⟩

/-! ### Batches -/

/-- The queries have made something of some containers, and the cells are what that left. -/
def Answered (queries : List Query) (cells : Cells) : Prop :=
  ∃ containers effects before, Takes queries containers effects ∧ cells = Effect.applyAll effects before

namespace Answered

variable {queries : List Query} {cells : Cells}

/-- Where nothing is changed, every read remembers its answer. -/
theorem cached_eq_some (h : Answered queries cells) (hchange : ∀ r, Query.change r ∉ queries)
    {q : ReadQuery} (hq : Query.read q ∈ queries) : ∃ v, q.cached? cells = some v := by
  obtain ⟨containers, effects, before, htakes, rfl⟩ := h
  obtain ⟨earlier, later, rfl⟩ := List.append_of_mem hq
  obtain ⟨taken, container, left, pre, e, post, rfl, rfl, -, heffect, hlater⟩ := htakes.split
  obtain ⟨v, rfl, -⟩ := Query.effectOf_read_eq_ok heffect
  rw [Effect.applyAll, List.foldl_append, List.foldl_cons]
  -- what the read keeps is at most replaced by another answer at its place
  refine hlater.induction (P := fun cells => ∃ v, q.cached? cells = some v) ?_ ?_
  · rintro p hp container' e' heffect' cells ⟨w, hw⟩
    cases p with
    | read r =>
      obtain ⟨w', rfl, -⟩ := Query.effectOf_read_eq_ok heffect'
      show ∃ v, (cells.keep r.cell w').cached[q.cell]? = some v
      rw [Cells.cached_keep]
      split
      · exact ⟨w', rfl⟩
      · exact ⟨w, hw⟩
    | change r =>
      exact absurd (List.mem_append_right _ (List.mem_cons_of_mem _ hp)) (hchange r)
    | step cell =>
      rw [Query.effectOf] at heffect'
      split at heffect'
      · cases heffect'
        exact ⟨w, hw⟩
      · cases heffect'
    | version cell =>
      obtain ⟨_, -, rfl⟩ := Except.map_eq_ok_iff.mp heffect'
      exact ⟨w, hw⟩
    | close | raw =>
      cases heffect'
      exact ⟨w, hw⟩
  · show ∃ v', (Cells.keep _ q.cell v).cached[q.cell]? = some v'
    rw [Cells.cached_keep, if_pos rfl]
    exact ⟨v, rfl⟩

/-- A question for the version remembers its answer. -/
theorem version_eq_some {cell : Cell} (h : Answered [.version cell] cells) :
    ∃ v, cells.versions[cell]? = some v := by
  obtain ⟨containers, effects, before, htakes, rfl⟩ := h
  cases htakes with
  | cons heffect hrest =>
    cases hrest with
    | nil =>
      obtain ⟨v, -, rfl⟩ := Except.map_eq_ok_iff.mp heffect
      exact ⟨v, Std.ExtTreeMap.getElem?_insert_self⟩

end Answered

/-- A query remembers the value that a container carries for it, or no answer is new. -/
theorem Query.effect_cases {q : Query} {container : Container} {e : Effect}
    (h : q.effectOf container = .ok e) :
    (∃ r v, q = .read r ∧ e = .kept r.cell v ∧ r.Carries container v) ∨
      ∀ m : Memory, m.Fades (m.mapCells e.apply) := by
  cases q with
  | read r =>
    obtain ⟨v, rfl, hcarries⟩ := Query.effectOf_read_eq_ok h
    exact Or.inl ⟨r, v, rfl, rfl, hcarries⟩
  | change r =>
    obtain ⟨_, -, rfl⟩ := Except.map_eq_ok_iff.mp h
    exact Or.inr (.forgetAll r.outdates)
  | step cell =>
    rw [Query.effectOf] at h
    split at h
    · cases h
      exact Or.inr fun m => ⟨Nat.le_refl _, rfl, fun _ _ => id⟩
    · cases h
  | version cell =>
    obtain ⟨_, -, rfl⟩ := Except.map_eq_ok_iff.mp h
    exact Or.inr fun m => ⟨Nat.le_refl _, rfl, fun _ _ => id⟩
  | close | raw =>
    cases h
    exact Or.inr .refl

/-- What a query makes of a container fits the roles that serve it. -/
theorem Roles.FitSince.kept {q : Query} (hserves : ∀ r, q = .read r → Γ.Serves r) :
    q.Keeps (Γ.FitSince before) := by
  intro container e heffect m hm
  rcases Query.effect_cases heffect with ⟨r, v, rfl, rfl, hcarries⟩ | hfades
  · exact ⟨hm.fit.keep (hserves r rfl) hcarries.type_eq, hm.same.trans (.mapCells _ m)⟩
  · exact hm.mapCells (hfades m)

variable [Link σ]

/-- A batch of queries that are ready keeps the roles fitting, and fails by no fault of the client. -/
theorem Roles.dispatch_meets {queries : List Query} (hstd : ∀ q ∈ queries, q.Standard)
    (hserves : ∀ q, Query.read q ∈ queries → Γ.Serves q) :
    (Action.dispatch queries : Action σ Unit).Meets
      (fun m => Γ.FitSince before m ∧ ∀ q ∈ queries, q.Ready m.cells)
      (fun _ m => Γ.FitSince before m ∧ Answered queries m.cells) (Γ.Excuses σ before) := by
  have hlib : ∀ q ∈ queries, q.BuiltIn := fun q hq => (hstd q hq).builtIn
  have hkeeps : (Action.dispatch queries : Action σ Unit).Meets (Γ.FitSince before)
      (fun _ => Γ.FitSince before) (fun _ => Γ.FitSince before) :=
    Action.dispatch_keeps hlib fun q hq => Roles.FitSince.kept fun r hr => hserves r (hr ▸ hq)
  rintro c ⟨hfit, hready⟩
  obtain ⟨hok, herror⟩ := hkeeps c hfit
  constructor
  · intro _ c' hdispatch
    obtain ⟨containers, effects, htakes, hmemory⟩ := Action.dispatch_eq_ok hlib hdispatch
    refine ⟨hok _ c' hdispatch, containers, effects, c.memory.cells, htakes, ?_⟩
    rw [hmemory]
  · intro e c' hdispatch
    have hfail := Action.dispatch_eq_error hlib hdispatch
    exact ⟨herror e c' hdispatch, fun _ => hfail.isInternal_eq_false hstd hready⟩

/-- A batch of one query. -/
theorem Roles.dispatch_one_meets {q : Query} (hstd : q.Standard)
    (hserves : ∀ r, q = .read r → Γ.Serves r) :
    (Action.dispatch [q] : Action σ Unit).Meets
      (fun m => Γ.FitSince before m ∧ q.Ready m.cells)
      (fun _ m => Γ.FitSince before m ∧ Answered [q] m.cells) (Γ.Excuses σ before) := by
  refine (Roles.dispatch_meets (List.forall_mem_singleton.mpr hstd) ?_).mono ?_ (fun _ _ => id)
    fun _ _ => id
  · intro r hr
    exact hserves r (List.mem_singleton.mp hr).symm
  · rintro m ⟨hfit, hready⟩
    exact ⟨hfit, List.forall_mem_singleton.mpr hready⟩

/-! ### Reads -/

/-- Values of a type can be read. -/
def Readable.Accepts (α : Type) [Readable α] (t : ValueType) : Prop :=
  ∀ v : Value, v.type = t → ∃ a : α, Readable.ofValue? v = some a

theorem Readable.ofValue_eq_ok {α : Type} [Readable α] {t : ValueType} (h : Accepts α t) {v : Value}
    (hv : v.type = t) : ∃ a : α, Readable.ofValue v = .ok a := by
  obtain ⟨a, ha⟩ := h v hv
  refine ⟨a, ?_⟩
  unfold ofValue
  rw [ha]

/-- The table of what is read as what. -/
theorem Readable.accepts_table :
    Accepts Binary64 .double ∧ Accepts Int32 .int ∧ Accepts String .text ∧
      Accepts (List String) .textList ∧ Accepts Position .position ∧ Accepts (List Position) .polygon ∧
      Accepts Color .color ∧ Accepts BoundingBox .boundingBox := by
  refine ⟨?_, ?_, ?_, ?_, ?_, ?_, ?_, ?_⟩ <;> intro v hv <;> cases v <;>
    first
    | exact ⟨_, rfl⟩
    | cases hv

namespace ReadQuery

variable {q : ReadQuery} (hstd : (Query.read q).Standard) (hserves : Γ.Serves q)

include hstd hserves

theorem get_meets :
    (q.get : Action σ Value).Meets (fun m => Γ.FitSince before m ∧ (Query.read q).Ready m.cells)
      (fun v m => Γ.FitSince before m ∧ v.type = q.type) (Γ.Excuses σ before) := by
  refine .bind .memory fun m => ?_
  split
  · next v hv =>
    refine .pure ?_
    rintro m ⟨rfl, hfit, -⟩
    exact ⟨hfit, hfit.fit.type_eq hserves hv⟩
  · refine .bind ((Roles.dispatch_one_meets hstd ?_).mono ?_ (fun _ _ => id) fun _ _ => id) fun _ => ?_
    · rintro r ⟨⟩
      exact hserves
    · rintro m ⟨-, hfit⟩
      exact hfit
    · refine .bind .memory fun m => ?_
      split
      · next v hv =>
        refine .pure ?_
        rintro m ⟨rfl, hfit, -⟩
        exact ⟨hfit, hfit.fit.type_eq hserves hv⟩
      · next hnone =>
        refine .throw ?_
        rintro m ⟨rfl, -, hanswered⟩
        obtain ⟨v, hv⟩ := hanswered.cached_eq_some (by simp) List.mem_cons_self
        rw [hnone] at hv
        cases hv

/-- A read as what its value stands for, where values of its type can be read so. -/
theorem getAs_meets {α : Type} [Readable α] (haccepts : Readable.Accepts α q.type) :
    (q.getAs α : Action σ α).Meets (fun m => Γ.FitSince before m ∧ (Query.read q).Ready m.cells)
      (fun _ => Γ.FitSince before) (Γ.Excuses σ before) := by
  refine .bind (get_meets hstd hserves) fun v => .ofExcept ?_ ?_
  · rintro a - m ⟨hfit, -⟩
    exact hfit
  · rintro e he m ⟨-, htype⟩
    obtain ⟨a, ha⟩ := Readable.ofValue_eq_ok haccepts htype
    rw [ha] at he
    cases he

/-- A read that takes no parameter is always ready. -/
theorem getAs_meets_of_plain {α : Type} [Readable α] (haccepts : Readable.Accepts α q.type)
    (hplain : q.needsParameter = false) :
    (q.getAs α : Action σ α).Meets (Γ.FitSince before) (fun _ => Γ.FitSince before)
      (Γ.Excuses σ before) := by
  refine (getAs_meets hstd hserves haccepts).mono ?_ (fun _ _ => id) fun _ _ => id
  intro m hfit
  refine ⟨hfit, ?_⟩
  intro hneeds
  rw [hplain] at hneeds
  cases hneeds

end ReadQuery

/-! ### Changes -/

/-- A change that is sent with its value. -/
theorem ChangeQuery.runWith_meets {q : ChangeQuery} (hstd : (Query.change q).Standard) (v : Value) :
    (q.runWith v : Action σ Unit).Meets (Γ.FitSince before) (fun _ => Γ.FitSince before)
      (Γ.Excuses σ before) := by
  refine .bind (Q := fun _ m => Γ.FitSince before m ∧ (Query.change q).Ready m.cells) (.update ?_)
    fun _ => (Roles.dispatch_one_meets hstd nofun).mono (fun _ => id) (fun _ _ h => h.1) fun _ _ => id
  intro m hfit
  exact ⟨hfit.mapCells ⟨Nat.le_refl _, rfl, fun _ _ => id⟩, v, Std.ExtTreeMap.getElem?_insert_self⟩

/-! ### Entities -/

section Entities

variable {k : Kind} {e : Entity k}

theorem Entity.standard_query (e : Entity k) (x : k.Variable) : (Query.read (e.query x)).Standard := by
  show k.readCommand < 0xf0 ∧ Code.isStatusOnly k.readCommand = false ∧
    k.readCommand ≠ Code.simulationStep
  cases k <;> decide

theorem Entity.standard_change (e : Entity k) (c : Change k) :
    (Query.change (e.change c)).Standard := by
  cases k <;> rfl

variable (he : Γ e.handle = some (.entity k e.id))

include he

/-- A variable that takes no parameter is read. -/
theorem Entity.read_meets {α : Type} [Readable α] {x : k.Variable}
    (haccepts : Readable.Accepts α (k.info x).type)
    (hplain : ((k.info x).volatility == .parameterized) = false) :
    (e.read α x : Action σ α).Meets (Γ.FitSince before) (fun _ => Γ.FitSince before)
      (Γ.Excuses σ before) :=
  ReadQuery.getAs_meets_of_plain (e.standard_query x) (Roles.serves_query he x) haccepts hplain

end Entities

theorem Vehicle.ensurePresent_meets (v : Vehicle) :
    (v.ensurePresent : Action σ Unit).Meets (Γ.FitSince before) (fun _ => Γ.FitSince before)
      (Γ.Excuses σ before) := by
  refine .bind .memory fun m => ?_
  split
  · refine .throw ?_
    rintro m ⟨-, hfit⟩
    exact ⟨hfit, fun _ => rfl⟩
  · refine .pure ?_
    rintro m ⟨-, hfit⟩
    exact hfit

theorem Vehicle.read_meets {v : Vehicle} (hv : Γ v.handle = some (.entity .vehicle v.id)) {α : Type}
    [Readable α] {x : VehicleVariable} (haccepts : Readable.Accepts α x.info.type)
    (hplain : (x.info.volatility == .parameterized) = false) :
    (Vehicle.read α v x : Action σ α).Meets (Γ.FitSince before) (fun _ => Γ.FitSince before)
      (Γ.Excuses σ before) :=
  .bind v.ensurePresent_meets fun _ => Entity.read_meets hv (x := x) haccepts hplain

theorem Vehicle.alter_meets (v : Vehicle) (c : Change .vehicle) (value : Value) :
    (v.alter c value : Action σ Unit).Meets (Γ.FitSince before) (fun _ => Γ.FitSince before)
      (Γ.Excuses σ before) :=
  .bind v.ensurePresent_meets fun _ => ChangeQuery.runWith_meets (v.standard_change c) value

/-- A read with a parameter is ready once it has been given one. -/
theorem Edge.travelTime_meets {e : Edge} (he : Γ e.handle = some (.entity .edge e.id))
    (time : Binary64) :
    (e.travelTime time : Action σ Binary64).Meets (Γ.FitSince before) (fun _ => Γ.FitSince before)
      (Γ.Excuses σ before) := by
  refine .bind (.update ?_) fun _ => ReadQuery.getAs_meets
    (e.standard_query EdgeVariable.travelTime) (Roles.serves_query he EdgeVariable.travelTime)
    Readable.accepts_table.1
  intro m hfit
  refine ⟨hfit.mapCells (.setParameter _ _ m), fun _ => ?_⟩
  exact Cells.parameters_setParameter_self m.cells _ _

/-- What an entity can be asked for or told. -/
inductive Use : Kind → Type where
  | speed : Use .vehicle
  | position : Use .vehicle
  | roadId : Use .vehicle
  | route : Use .vehicle
  | color : Use .vehicle
  | changeTarget (edge : String) : Use .vehicle
  | setColor (c : Color) : Use .vehicle
  | setMaxSpeed (limit : Binary64) : Use .vehicle
  | remove : Use .vehicle
  | travelTime (time : Binary64) : Use .edge
  | setTravelTime (seconds : Binary64) : Use .edge
  | meanSpeed : Use .edge
  | edgeVehicleCount : Use .edge
  | edgeVehicleIds : Use .edge
  | length : Use .lane
  | laneMaxSpeed : Use .lane
  | shape : Use .lane
  | edgeId : Use .lane
  | laneVehicleCount : Use .lane
  | setLaneMaxSpeed (limit : Binary64) : Use .lane
  | state : Use .trafficLight
  | phase : Use .trafficLight
  | program : Use .trafficLight
  | nextSwitch : Use .trafficLight
  | controlledLanes : Use .trafficLight
  | setPhase (n : Int32) : Use .trafficLight
  | setProgram (name : String) : Use .trafficLight

namespace Use

/-- Asks or tells an entity; what it answers is left aside. -/
def run : {k : Kind} → Use k → Entity k → Action σ Unit
  | _, speed, v => discard (Vehicle.speed v)
  | _, position, v => discard (Vehicle.position v)
  | _, roadId, v => discard (Vehicle.roadId v)
  | _, route, v => discard (Vehicle.route v)
  | _, color, v => discard (Vehicle.color v)
  | _, changeTarget edge, v => Vehicle.changeTarget v edge
  | _, setColor c, v => Vehicle.setColor v c
  | _, setMaxSpeed limit, v => Vehicle.setMaxSpeed v limit
  | _, remove, v => Vehicle.remove v
  | _, travelTime time, e => discard (Edge.travelTime e time)
  | _, setTravelTime seconds, e => Edge.setTravelTime e seconds
  | _, meanSpeed, e => discard (Edge.meanSpeed e)
  | _, edgeVehicleCount, e => discard (Edge.vehicleCount e)
  | _, edgeVehicleIds, e => discard (Edge.vehicleIds e)
  | _, length, l => discard (Lane.length l)
  | _, laneMaxSpeed, l => discard (Lane.maxSpeed l)
  | _, shape, l => discard (Lane.shape l)
  | _, edgeId, l => discard (Lane.edgeId l)
  | _, laneVehicleCount, l => discard (Lane.vehicleCount l)
  | _, setLaneMaxSpeed limit, l => Lane.setMaxSpeed l limit
  | _, state, t => discard (TrafficLight.state t)
  | _, phase, t => discard (TrafficLight.phase t)
  | _, program, t => discard (TrafficLight.program t)
  | _, nextSwitch, t => discard (TrafficLight.nextSwitch t)
  | _, controlledLanes, t => discard (TrafficLight.controlledLanes t)
  | _, setPhase n, t => TrafficLight.setPhase t n
  | _, setProgram name, t => TrafficLight.setProgram t name

/-- Whatever an entity is asked or told, the roles go on to fit, and no failure is the client's own
fault. -/
theorem run_meets {k : Kind} (u : Use k) {e : Entity k} (he : Γ e.handle = some (.entity k e.id)) :
    (u.run e : Action σ Unit).Meets (Γ.FitSince before) (fun _ => Γ.FitSince before)
      (Γ.Excuses σ before) := by
  obtain ⟨hdouble, hint, htext, htextList, hposition, hpolygon, hcolor, -⟩ := Readable.accepts_table
  cases u with
  | speed => exact .discard (Vehicle.read_meets he hdouble rfl)
  | position => exact .discard (Vehicle.read_meets he hposition rfl)
  | roadId => exact .discard (Vehicle.read_meets he htext rfl)
  | route => exact .discard (Vehicle.read_meets he htextList rfl)
  | color => exact .discard (Vehicle.read_meets he hcolor rfl)
  | changeTarget | setColor | setMaxSpeed | remove => exact Vehicle.alter_meets e _ _
  | travelTime time => exact .discard (Edge.travelTime_meets he time)
  | setTravelTime => exact ChangeQuery.runWith_meets (e.standard_change _) _
  | meanSpeed => exact .discard (Entity.read_meets he hdouble rfl)
  | edgeVehicleCount => exact .discard (Entity.read_meets he hint rfl)
  | edgeVehicleIds => exact .discard (Entity.read_meets he htextList rfl)
  | length => exact .discard (Entity.read_meets he hdouble rfl)
  | laneMaxSpeed => exact .discard (Entity.read_meets he hdouble rfl)
  | shape => exact .discard (Entity.read_meets he hpolygon rfl)
  | edgeId => exact .discard (Entity.read_meets he htext rfl)
  | laneVehicleCount => exact .discard (Entity.read_meets he hint rfl)
  | setLaneMaxSpeed => exact ChangeQuery.runWith_meets (e.standard_change _) _
  | state => exact .discard (Entity.read_meets he htext rfl)
  | phase => exact .discard (Entity.read_meets he hint rfl)
  | program => exact .discard (Entity.read_meets he htext rfl)
  | nextSwitch => exact .discard (Entity.read_meets he hdouble rfl)
  | controlledLanes => exact .discard (Entity.read_meets he htextList rfl)
  | setPhase | setProgram => exact ChangeQuery.runWith_meets (e.standard_change _) _

end Use

end TrafficControl
