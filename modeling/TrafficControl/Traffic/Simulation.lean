import TrafficControl.Entity.Descriptor
import TrafficControl.Entity.Road
import TrafficControl.Entity.TrafficLight
import TrafficControl.Traffic.Lifecycle

/-!
# Simulations

A `Simulation` is what a caller works with: the lifecycle of the vehicles, a repository for each
kind of entity, the queries about the simulation as a whole, and everyone who is told about steps.
The repositories are told first, then the number of expected vehicles, then the caller's own
listeners.
-/

namespace TrafficControl

/-- A simulation that a client is connected to. -/
structure Simulation where
  lifecycle : Lifecycle
  vehicles : Repository .vehicle
  edges : Repository .edge
  lanes : Repository .lane
  trafficLights : Repository .trafficLight
  /-- Owns the queries about the simulation as a whole. -/
  handle : Handle
  stepLength : Binary64
  observers : List Observer := []
  /-- The caller's listeners. -/
  listeners : List Listener := []

namespace Simulation

variable {σ : Type}

/-! ## Queries about the whole -/

/-- A read of the simulation as a whole. -/
def wholeQuery (owner : Handle) (index : Nat) (code : UInt8) (type : ValueType) : ReadQuery where
  cell := ⟨owner, index⟩
  command := Code.getSimulation
  object := ""
  code := code
  type := type

def minExpectedQuery (s : Simulation) : ReadQuery := wholeQuery s.handle 0 Code.minExpected .int

def netBoundaryQuery (s : Simulation) : ReadQuery :=
  wholeQuery s.handle 1 Code.netBoundary .boundingBox

def versionCell (s : Simulation) : Cell := ⟨s.handle, 0⟩

/-! ## Factories -/

/-- Vehicles come from the lifecycle: only a vehicle inside the simulation has an object. -/
def vehicleFactory (live : Registry) (id : String) : Action σ Handle :=
  match live[id]? with
  | some h => pure h
  | none => throw (.broken (.neverDeparted id))

/-- Other entities are made when they are first listed. -/
def entityFactory (_ : String) : Action σ Handle := Action.fresh

/-- The factory of the vehicle repository. -/
def findVehicle (s : Simulation) : String → Action σ Handle := vehicleFactory s.lifecycle.live

/-! ## Listeners -/

/-- Everyone who is told about a step, in order. -/
def allListeners (s : Simulation) : List Listener :=
  [.repository s.vehicles, .repository s.edges, .repository s.lanes, .repository s.trafficLights,
    .read s.minExpectedQuery] ++ s.listeners

def addObserver (s : Simulation) (o : Observer) : Simulation :=
  { s with observers := s.observers ++ [o] }

def addListener (s : Simulation) (l : Listener) : Simulation :=
  { s with listeners := s.listeners ++ [l] }

/-! ## Time -/

/-- The time of the last completed step. -/
def currentTime (s : Simulation) : Binary64 := s.lifecycle.clock

/-- A vehicle inside the simulation. -/
def vehicle? (s : Simulation) (id : String) : Option Vehicle := s.lifecycle.vehicle? id

variable [Link σ]

/-- The length of a step: the one given, or else the simulator's own. -/
def chooseStepLength (given : Option Binary64) (owner : Handle) : Action σ Binary64 :=
  match given with
  | some length => pure length
  | none => (wholeQuery owner 2 Code.stepLength .double).getAs Binary64

/-- Starts to work with a simulation and takes over the vehicles that are there already. -/
def start (stepLength : Option Binary64) : Action σ Simulation := do
  let handle ← Action.fresh
  let vehicles ← Repository.create .vehicle "vehicle" true false
  let edges ← Repository.create .edge "edge" false true
  let lanes ← Repository.create .lane "lane" false true
  let trafficLights ← Repository.create .trafficLight "traffic light" false true
  let stepLength ← chooseStepLength stepLength handle
  let lifecycle ← Lifecycle.create
  let lifecycle ← lifecycle.bootstrap
  Action.log (.ready lifecycle.clock stepLength)
  pure { lifecycle, vehicles, edges, lanes, trafficLights, handle, stepLength }

/-- Advances to a time. -/
def stepTo (s : Simulation) (target : Binary64) : Action σ (StepEvents × Simulation) := do
  let (events, lifecycle) ← s.lifecycle.advance target s.observers s.allListeners
  pure (events, { s with lifecycle })

/-- Advances by one step. -/
def step (s : Simulation) : Action σ (StepEvents × Simulation) :=
  s.stepTo (s.currentTime + s.stepLength)

/-! ## Questions and orders -/

/-- The travel time of an edge entered now, if the edge is known. -/
def edgeTravelTime (s : Simulation) (id : String) : Action σ (Option Binary64) := do
  match ← s.edges.find? entityFactory id with
  | some e => some <$> Edge.travelTime e s.currentTime
  | none => pure none

/-- Inserts a vehicle; it is reported as departed once the simulator has placed it. -/
def addVehicle (id : String) (descriptor : VehicleDescriptor) : Action σ Unit := do
  let query : ChangeQuery := ⟨⟨← Action.fresh, 0⟩, Code.setVehicle, id, Code.addFull, []⟩
  query.runWith descriptor.value

/-- How many vehicles are loaded or still running. -/
def minExpected (s : Simulation) : Action σ Int32 := s.minExpectedQuery.getAs Int32

/-- The box around the road network. -/
def netBoundary (s : Simulation) : Action σ BoundingBox := s.netBoundaryQuery.getAs BoundingBox

/-- Interface level and version text of the simulator, which do not change. -/
def version (s : Simulation) : Action σ (Int32 × String) := do
  match (← Action.memory).cells.versions[s.versionCell]? with
  | some v => pure v
  | none =>
    Action.dispatch [.version s.versionCell]
    match (← Action.memory).cells.versions[s.versionCell]? with
    | some v => pure v
    | none => throw (.missingResponse Code.getVersion)

/-- Asks the simulator to shut down. -/
def close (s : Simulation) : Action σ Unit := do
  Action.dispatch [.close]
  Action.log (.closed s.currentTime)

end Simulation

end TrafficControl
