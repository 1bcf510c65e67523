import TrafficControl.Entity.Kind
import TrafficControl.Query.Batch

/-!
# Entities

An entity is an object of the simulation together with one read for each variable of its kind and
one change for each of its setters. The reads keep their answers as long as the entity is held; a
step puts out of date only those that vary from step to step.
-/

namespace TrafficControl

/-- An object of the simulation. Entities are told apart by their handles: two entities of the same
id may be two objects. -/
structure Entity (k : Kind) where
  handle : Handle
  id : String
  deriving DecidableEq, Repr, Inhabited

/-- What can be changed of an entity of each kind. -/
inductive Change : Kind → Type where
  /-- Where a vehicle goes. -/
  | target : Change .vehicle
  | color : Change .vehicle
  | maxSpeed : Change .vehicle
  /-- Takes a vehicle out of the simulation. -/
  | removal : Change .vehicle
  /-- The time that routing assumes for an edge. -/
  | travelTime : Change .edge
  /-- The speed limit of a lane. -/
  | speedLimit : Change .lane
  | phase : Change .trafficLight
  | program : Change .trafficLight
  deriving DecidableEq, Repr

namespace Change

/-- The variable that a change sets. -/
def code {k : Kind} : Change k → UInt8
  | target => Code.changeTarget
  | color => Code.color
  | maxSpeed => Code.maxSpeed
  | removal => Code.remove
  | travelTime => Code.edgeTravelTime
  | speedLimit => Code.maxSpeed
  | phase => Code.phaseIndex
  | program => Code.program

/-- The variables whose remembered values an accepted change puts out of date. -/
def outdates : {k : Kind} → Change k → List k.Variable
  | _, target => [VehicleVariable.routeId, VehicleVariable.edges]
  | _, color => [VehicleVariable.color]
  | _, maxSpeed => [VehicleVariable.maxSpeed]
  | _, removal => []
  | _, travelTime => [EdgeVariable.travelTime]
  | _, speedLimit => [LaneVariable.maxSpeed]
  | _, phase =>
    [TrafficLightVariable.phase, TrafficLightVariable.state, TrafficLightVariable.nextSwitch]
  | _, program =>
    [TrafficLightVariable.program, TrafficLightVariable.phase, TrafficLightVariable.state]

/-- The place of a change among those of its kind. -/
def index {k : Kind} : Change k → Nat
  | target | travelTime | speedLimit | phase => 0
  | color | program => 1
  | maxSpeed => 2
  | removal => 3

end Change

namespace Entity

variable {σ : Type} {k : Kind}

/-- Makes an entity of which nothing is known yet. -/
def create (k : Kind) (id : String) : Action σ (Entity k) := do
  pure ⟨← Action.fresh, id⟩

/-! ## Reads -/

/-- The cell of a variable. -/
def cell (e : Entity k) (x : k.Variable) : Cell := ⟨e.handle, k.index x⟩

/-- The read of a variable. -/
def query (e : Entity k) (x : k.Variable) : ReadQuery where
  cell := e.cell x
  command := k.readCommand
  object := e.id
  code := (k.info x).code
  type := (k.info x).type
  needsParameter := (k.info x).volatility == .parameterized

/-- Reads a variable as what its value stands for. -/
def read (α : Type) [Link σ] [Readable α] (e : Entity k) (x : k.Variable) : Action σ α :=
  (e.query x).getAs α

/-! ## Changes -/

/-- The change of an entity. -/
def change (e : Entity k) (c : Change k) : ChangeQuery where
  cell := ⟨e.handle, c.index⟩
  command := k.changeCommand
  object := e.id
  code := c.code
  outdates := c.outdates.map e.cell

/-! ## What is out of date -/

/-- Forgets what varies from step to step. -/
def nextStep (e : Entity k) (cells : Cells) : Cells :=
  cells.forgetAll (k.steppedVariables.map e.cell)

/-- Forgets every value, those that do not vary included. -/
def forgetAll (e : Entity k) (cells : Cells) : Cells :=
  cells.forgetAll (k.allVariables.map e.cell)

end Entity

end TrafficControl
