import TrafficControl.Proofs.Client.Registry
import TrafficControl.Proofs.Entity.Adoption
import TrafficControl.Proofs.Query.Effect
import TrafficControl.Traffic.Simulation

/-!
# What objects are there for

A cell is typed by the object that owns it: a simulation, a lifecycle, a repository or an entity of
some kind remembers answers of known types at known places. An assignment of such roles to handles is
in place in a memory (`Roles.Placed`) if the objects were made and nothing is remembered of objects
that are not made yet, and it fits (`Roles.Fit`) if all that is remembered is of the type of its place,
too. It covers a simulation (`Roles.Covers`) if everything the simulation works with has its role
there. Since an object has one role, no two of these objects are the same one.

Roles are never taken back: a new object gets a role of its own, and the others keep theirs.

* `Memory.Fades`, `Memory.Proceeds`: what keeps roles fitting, and what keeps them in place.
* `Roles.Fit.keep`, `Roles.Fit.grown`: answers that are remembered, and objects that are made.
-/

namespace TrafficControl

/-! ### Roles -/

/-- What an object is there for. -/
inductive Role where
  | simulation
  | lifecycle
  | repository (k : Kind)
  | entity (k : Kind) (id : String)
  deriving DecidableEq

/-- The type of the answers that an object of a role remembers at a place. -/
def Role.type? : Role → Nat → Option ValueType
  | simulation, 0 => some .int
  | simulation, 1 => some .boundingBox
  | simulation, 2 => some .double
  | lifecycle, 0 => some .double
  | lifecycle, 1 | lifecycle, 2 | lifecycle, 3 | lifecycle, 4 => some .textList
  | repository _, 0 => some .textList
  | entity k _, place => k.allVariables[place]?.map fun x => (k.info x).type
  | _, _ => none

/-- The objects that have a role, and which one. -/
abbrev Roles := Handle → Option Role

/-- Every variable stands at its place in the order of its kind. -/
theorem Kind.getElem?_index (k : Kind) (x : k.Variable) : k.allVariables[k.index x]? = some x := by
  cases k <;> cases x <;> rfl

/-- No two variables of a kind have the same place. -/
theorem Kind.index_injective (k : Kind) : Function.Injective k.index := by
  intro x y h
  have hx := k.getElem?_index x
  rw [h, k.getElem?_index y] at hx
  exact (Option.some.inj hx).symm

theorem Entity.cell_injective {k : Kind} (e : Entity k) : Function.Injective e.cell := by
  intro x y h
  exact k.index_injective (congrArg Cell.index h)

/-! ### Memories that fade -/

namespace Memory

/-- Nothing is remembered of objects that are not made yet. -/
def Blank (m : Memory) : Prop :=
  ∀ h, m.nextHandle ≤ h → ∀ place, m.cells.cached[(⟨h, place⟩ : Cell)]? = none

/-- Answers may have been forgotten and objects made, but no answer is new and the repositories hold
what they held. -/
structure Fades (m m' : Memory) : Prop where
  nextHandle_le : m.nextHandle ≤ m'.nextHandle
  holdings : SameHoldings m m'
  cached : ∀ (cell : Cell) (v : Value), m'.cells.cached[cell]? = some v → m.cells.cached[cell]? = some v

/-- Objects may have been made and queries used, but the repositories hold what they held, and still
nothing is remembered of objects that are not made yet. -/
structure Proceeds (m m' : Memory) : Prop where
  nextHandle_le : m.nextHandle ≤ m'.nextHandle
  holdings : SameHoldings m m'
  blank : m.Blank → m'.Blank

/-- A relation between memories that everything satisfies that is done at a tick, and under which the
objects stay in their places. -/
structure Steady (R : Memory → Memory → Prop) : Prop extends Lasting R where
  retire : ∀ (v : Vehicle) (m : Memory), R m (v.retire m)
  proceeds : ∀ {m m' : Memory}, R m m' → m.Proceeds m'

namespace Fades

theorem refl (m : Memory) : Fades m m := ⟨Nat.le_refl _, rfl, fun _ _ => id⟩

theorem trans {m₁ m₂ m₃ : Memory} (h : Fades m₁ m₂) (h' : Fades m₂ m₃) : Fades m₁ m₃ where
  nextHandle_le := Nat.le_trans h.nextHandle_le h'.nextHandle_le
  holdings := SameHoldings.lasting.trans h.holdings h'.holdings
  cached cell v hv := h.cached cell v (h'.cached cell v hv)

theorem fresh (m : Memory) : Fades m m.fresh.2 := ⟨Nat.le_succ _, rfl, fun _ _ => id⟩

theorem addLog (r : LogRecord) (m : Memory) : Fades m (m.addLog r) :=
  ⟨Nat.le_refl _, rfl, fun _ _ => id⟩

theorem setVehicle (h : Handle) (r : VehicleRecord) (m : Memory) : Fades m (m.setVehicle h r) :=
  ⟨Nat.le_refl _, rfl, fun _ _ => id⟩

theorem addVehicle (id : String) (time : Binary64) (m : Memory) : Fades m (m.addVehicle id time).2 :=
  (fresh m).trans (setVehicle _ _ _)

theorem forgetAll (cells : List Cell) (m : Memory) : Fades m (m.mapCells (·.forgetAll cells)) where
  nextHandle_le := Nat.le_refl _
  holdings := rfl
  cached cell v hv := by
    replace hv : (m.cells.forgetAll cells).cached[cell]? = some v := hv
    rw [Cells.cached_forgetAll] at hv
    split at hv
    · cases hv
    · exact hv

theorem retire (v : Vehicle) (m : Memory) : Fades m (v.retire m) :=
  (setVehicle v.handle _ m).trans (forgetAll (Kind.vehicle.allVariables.map v.cell) _)

theorem setParameter (cell : Cell) (v : Value) (m : Memory) :
    Fades m (m.mapCells (·.setParameter cell v)) := by
  refine ⟨Nat.le_refl _, rfl, fun x w hw => ?_⟩
  replace hw : (m.cells.setParameter cell v).cached[x]? = some w := hw
  cases hsame : m.cells.parameters[cell]?.any (·.same v) with
  | true => rwa [Cells.setParameter_of_same hsame] at hw
  | false =>
    rw [Cells.cached_setParameter hsame] at hw
    split at hw
    · cases hw
    · exact hw

theorem blank {m m' : Memory} (h : Fades m m') (hm : m.Blank) : m'.Blank := by
  intro handle hle place
  rw [Option.eq_none_iff_forall_ne_some]
  intro v hv
  have hold := h.cached _ v hv
  rw [hm handle (Nat.le_trans h.nextHandle_le hle) place] at hold
  cases hold

theorem proceeds {m m' : Memory} (h : Fades m m') : Proceeds m m' :=
  ⟨h.nextHandle_le, h.holdings, h.blank⟩

theorem steady : Steady Fades :=
  ⟨⟨⟨refl, trans, addLog, addVehicle⟩, forgetAll⟩, retire, proceeds⟩

end Fades

theorem Proceeds.trans {m₁ m₂ m₃ : Memory} (h : Proceeds m₁ m₂) (h' : Proceeds m₂ m₃) :
    Proceeds m₁ m₃ :=
  ⟨Nat.le_trans h.nextHandle_le h'.nextHandle_le, SameHoldings.lasting.trans h.holdings h'.holdings,
    fun hm => h'.blank (h.blank hm)⟩

theorem Proceeds.steady : Steady Proceeds :=
  ⟨⟨⟨fun m => (Fades.refl m).proceeds, trans, fun r m => (Fades.addLog r m).proceeds,
    fun id time m => (Fades.addVehicle id time m).proceeds⟩,
    fun cells m => (Fades.forgetAll cells m).proceeds⟩, fun v m => (Fades.retire v m).proceeds, id⟩

end Memory

namespace Roles

/-! ### More and more roles -/

/-- The roles that were there are still there. -/
def ExtendedBy (Γ Γ' : Roles) : Prop := ∀ h r, Γ h = some r → Γ' h = some r

theorem ExtendedBy.refl (Γ : Roles) : Γ.ExtendedBy Γ := fun _ _ => id

theorem ExtendedBy.trans {Γ Γ' Γ'' : Roles} (h : Γ.ExtendedBy Γ') (h' : Γ'.ExtendedBy Γ'') :
    Γ.ExtendedBy Γ'' :=
  fun x r hx => h' x r (h x r hx)

/-- Gives a role to an object. -/
def assign (Γ : Roles) (h : Handle) (r : Role) : Roles := fun x => if x = h then some r else Γ x

theorem assign_self (Γ : Roles) (h : Handle) (r : Role) : Γ.assign h r h = some r := if_pos rfl

/-! ### Roles that fit -/

/-- The objects that have a role were made before, and nothing is remembered of objects that are not
made yet. -/
structure Placed (Γ : Roles) (m : Memory) : Prop where
  bound : ∀ h r, Γ h = some r → h < m.nextHandle
  blank : m.Blank

/-- What is remembered of objects that have a role is of the type of its place, too. -/
structure Fit (Γ : Roles) (m : Memory) : Prop extends Placed Γ m where
  typed : ∀ h r, Γ h = some r → ∀ place v, m.cells.cached[(⟨h, place⟩ : Cell)]? = some v →
    r.type? place = some v.type

/-- The read asks for what its owner remembers at its place. -/
def Serves (Γ : Roles) (q : ReadQuery) : Prop :=
  ∃ r, Γ q.cell.owner = some r ∧ r.type? q.cell.index = some q.type

/-- No object has a role, and nothing is remembered of those to come. -/
theorem Fit.nobody {m : Memory} (h : m.Blank) : Fit (fun _ => none) m :=
  ⟨⟨fun _ _ hr => absurd hr nofun, h⟩, fun _ _ hr => absurd hr nofun⟩

namespace Placed

variable {Γ Γ' : Roles} {m m' : Memory}

theorem of_proceeds (h : Γ.Placed m) (hm : m.Proceeds m') : Γ.Placed m' :=
  ⟨fun x r hx => Nat.lt_of_lt_of_le (h.bound x r hx) hm.nextHandle_le, hm.blank h.blank⟩

/-- Roles that agree for the objects that are made are more. -/
theorem extendedBy (h : Γ.Placed m) (hsame : ∀ x < m.nextHandle, Γ' x = Γ x) : Γ.ExtendedBy Γ' :=
  fun x r hx => (hsame x (h.bound x r hx)).trans hx

/-- The next new object has no role yet. -/
theorem assign_of_lt (Γ : Roles) (r : Role) {x : Handle} (hx : x < m.nextHandle) :
    Γ.assign m.nextHandle r x = Γ x :=
  if_neg (Nat.ne_of_lt hx)

theorem extendedBy_assign (h : Γ.Placed m) (r : Role) : Γ.ExtendedBy (Γ.assign m.nextHandle r) :=
  h.extendedBy fun _ hx => assign_of_lt Γ r hx

/-- A new object may get any role. -/
theorem assign (h : Γ.Placed m) (r : Role) (hm : m.Proceeds m') (hlt : m.nextHandle < m'.nextHandle) :
    (Γ.assign m.nextHandle r).Placed m' := by
  refine ⟨fun x r' hx => ?_, hm.blank h.blank⟩
  unfold Roles.assign at hx
  split at hx
  · next heq => exact heq ▸ hlt
  · exact Nat.lt_of_lt_of_le (h.bound x r' hx) hm.nextHandle_le

end Placed

namespace Fit

variable {Γ Γ' : Roles} {m m' : Memory}

/-- The answer to a read that is remembered is of the type of the read. -/
theorem type_eq (h : Γ.Fit m) {q : ReadQuery} (hq : Γ.Serves q) {v : Value}
    (hv : q.cached? m.cells = some v) : v.type = q.type := by
  obtain ⟨r, hr, htype⟩ := hq
  have hplace := h.typed _ r hr _ v hv
  rw [htype] at hplace
  exact (Option.some.inj hplace).symm

/-- Roles go on fitting when answers are forgotten and objects that were made meanwhile get theirs. -/
theorem grown (h : Γ.Fit m) (hm : m.Fades m') (hsame : ∀ x < m.nextHandle, Γ' x = Γ x)
    (hplaced : Γ'.Placed m') : Γ'.Fit m' := by
  refine ⟨hplaced, fun x r hx place v hv => ?_⟩
  have hold := hm.cached _ v hv
  by_cases hlt : x < m.nextHandle
  · exact h.typed x r (hsame x hlt ▸ hx) place v hold
  · rw [h.blank x (Nat.le_of_not_lt hlt) place] at hold
    cases hold

theorem of_fades (h : Γ.Fit m) (hm : m.Fades m') : Γ.Fit m' :=
  h.grown hm (fun _ _ => rfl) (h.toPlaced.of_proceeds hm.proceeds)

/-- A value of the type of its place may be remembered. -/
theorem keep (h : Γ.Fit m) {q : ReadQuery} (hq : Γ.Serves q) {v : Value} (hv : v.type = q.type) :
    Γ.Fit (m.mapCells (·.keep q.cell v)) := by
  obtain ⟨r, hr, htype⟩ := hq
  have hcached : ∀ x : Cell, (m.mapCells (·.keep q.cell v)).cells.cached[x]? =
      if q.cell = x then some v else m.cells.cached[x]? := Cells.cached_keep m.cells q.cell v
  refine ⟨⟨h.bound, ?_⟩, ?_⟩
  · intro x hx place
    rw [hcached, if_neg]
    · exact h.blank x hx place
    · intro heq
      have hlt := h.bound _ r hr
      rw [heq] at hlt
      exact absurd hlt (Nat.not_lt_of_le hx)
  · intro x r' hx place v' hv'
    rw [hcached] at hv'
    split at hv'
    · next heq =>
      rw [heq] at hr htype
      rw [hx] at hr
      cases hr
      cases hv'
      rw [htype, hv]
    · exact h.typed x r' hx place v' hv'

/-- A new object may get any role. -/
theorem assign (h : Γ.Fit m) (r : Role) (hm : m.Fades m') (hlt : m.nextHandle < m'.nextHandle) :
    (Γ.assign m.nextHandle r).Fit m' :=
  h.grown hm (fun _ hx => Placed.assign_of_lt Γ r hx) (h.toPlaced.assign r hm.proceeds hlt)

end Fit

/-! ### Registries -/

/-- The objects of a registry are there for the entities of their ids. -/
def Names (Γ : Roles) (k : Kind) (objects : Registry) : Prop :=
  ∀ (id : String) (h : Handle), objects[id]? = some h → Γ h = some (.entity k id)

theorem Names.empty (Γ : Roles) (k : Kind) : Γ.Names k ∅ :=
  fun _ _ h => absurd h Registry.getElem?_empty_ne_some

theorem Names.mono {Γ Γ' : Roles} {k : Kind} {objects : Registry} (h : Γ.Names k objects)
    (hle : Γ.ExtendedBy Γ') : Γ'.Names k objects :=
  fun id x hx => hle x _ (h id x hx)

theorem Names.insert {Γ : Roles} {k : Kind} {objects : Registry} (h : Γ.Names k objects)
    {id : String} {x : Handle} (hx : Γ x = some (.entity k id)) : Γ.Names k (objects.insert id x) := by
  intro y z hz
  rcases Registry.getElem?_insert_eq_some.mp hz with ⟨rfl, rfl⟩ | ⟨-, hz⟩
  · exact hx
  · exact h y z hz

theorem Names.erase {Γ : Roles} {k : Kind} {objects : Registry} (h : Γ.Names k objects) (id : String) :
    Γ.Names k (objects.erase id) :=
  fun x y hy => h x y (Registry.getElem?_erase_eq_some.mp hy).2

end Roles

/-! ### Simulations -/

/-- The repository of a kind. -/
def Simulation.repository (s : Simulation) : (k : Kind) → Repository k
  | .vehicle => s.vehicles
  | .edge => s.edges
  | .lane => s.lanes
  | .trafficLight => s.trafficLights

namespace Roles

/-- Everything that a simulation works with has its role. -/
structure Covers (Γ : Roles) (s : Simulation) (m : Memory) : Prop where
  simulation : Γ s.handle = some .simulation
  lifecycle : Γ s.lifecycle.handle = some .lifecycle
  repository : ∀ k, Γ (s.repository k).handle = some (.repository k)
  live : Γ.Names .vehicle s.lifecycle.live
  held : ∀ k, Γ.Names k ((s.repository k).objects m)

/-- The roles are in place and cover the simulation. -/
structure Maps (Γ : Roles) (s : Simulation) (m : Memory) : Prop where
  placed : Γ.Placed m
  covers : Γ.Covers s m

/-- The roles fit the memory and cover the simulation. -/
structure Suits (Γ : Roles) (s : Simulation) (m : Memory) : Prop where
  fit : Γ.Fit m
  covers : Γ.Covers s m

theorem Suits.maps {Γ : Roles} {s : Simulation} {m : Memory} (h : Γ.Suits s m) : Γ.Maps s m :=
  ⟨h.fit.toPlaced, h.covers⟩

theorem Covers.mono {Γ Γ' : Roles} {s : Simulation} {m : Memory} (h : Γ.Covers s m)
    (hle : Γ.ExtendedBy Γ') : Γ'.Covers s m where
  simulation := hle _ _ h.simulation
  lifecycle := hle _ _ h.lifecycle
  repository k := hle _ _ (h.repository k)
  live := h.live.mono hle
  held k := (h.held k).mono hle

theorem Covers.of_sameHoldings {Γ : Roles} {s : Simulation} {m m' : Memory} (h : Γ.Covers s m)
    (hm : Memory.SameHoldings m m') : Γ.Covers s m' where
  simulation := h.simulation
  lifecycle := h.lifecycle
  repository := h.repository
  live := h.live
  held k := by
    rw [Repository.objects, hm.holding_eq]
    exact h.held k

/-- Others may be told about a simulation. -/
theorem Covers.attended {Γ : Roles} {s : Simulation} {m : Memory} (h : Γ.Covers s m)
    (observers : List Observer) (listeners : List Listener) :
    Γ.Covers { s with observers, listeners } m where
  simulation := h.simulation
  lifecycle := h.lifecycle
  repository k := by cases k <;> exact h.repository _
  live := h.live
  held k := by cases k <;> exact h.held _

/-! ### Reads that are served -/

section Serves

variable {Γ : Roles} {s : Simulation} {m : Memory}

theorem Covers.serves_minExpected (h : Γ.Covers s m) : Γ.Serves s.minExpectedQuery :=
  ⟨.simulation, h.simulation, rfl⟩

theorem Covers.serves_netBoundary (h : Γ.Covers s m) : Γ.Serves s.netBoundaryQuery :=
  ⟨.simulation, h.simulation, rfl⟩

theorem serves_idList {k : Kind} {r : Repository k} (h : Γ r.handle = some (.repository k)) :
    Γ.Serves r.idList :=
  ⟨.repository k, h, rfl⟩

theorem serves_query {k : Kind} {e : Entity k} (h : Γ e.handle = some (.entity k e.id))
    (x : k.Variable) : Γ.Serves (e.query x) := by
  refine ⟨.entity k e.id, h, ?_⟩
  show (k.allVariables[k.index x]?).map (fun x => (k.info x).type) = some (k.info x).type
  rw [k.getElem?_index]
  rfl

variable {l : Lifecycle} (h : Γ l.handle = some .lifecycle)

include h

theorem serves_time : Γ.Serves l.timeQuery := ⟨.lifecycle, h, rfl⟩

theorem serves_active : Γ.Serves l.activeQuery := ⟨.lifecycle, h, rfl⟩

theorem serves_teleportStarting : Γ.Serves l.teleportStartingQuery := ⟨.lifecycle, h, rfl⟩

theorem serves_teleportEnding : Γ.Serves l.teleportEndingQuery := ⟨.lifecycle, h, rfl⟩

theorem serves_arrived : Γ.Serves l.arrivedQuery := ⟨.lifecycle, h, rfl⟩

end Serves

end Roles

end TrafficControl
