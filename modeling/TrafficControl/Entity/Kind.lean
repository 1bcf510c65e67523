import TrafficControl.Protocol.Code
import TrafficControl.Protocol.Value

/-!
# Kinds of entity and their variables

Four kinds of entity are known. Each has a closed list of variables that can be read, in a fixed
order, and each variable says how its value evolves: some hold until a change says otherwise, some
only until the next step, and some belong to a parameter of the request.
-/

namespace TrafficControl

/-- How a variable's value evolves. -/
inductive Volatility where
  /-- Fixed unless a change says otherwise. -/
  | static
  /-- Out of date after every step. -/
  | perStep
  /-- Belongs to a parameter; out of date when the parameter changes. -/
  | parameterized
  deriving DecidableEq, Repr

/-- The name of a volatility. -/
def Volatility.name : Volatility → String
  | static => "Static"
  | perStep => "PerStep"
  | parameterized => "Parameterized"

/-- What is known about a variable of a kind. -/
structure VariableInfo where
  name : String
  code : UInt8
  type : ValueType
  volatility : Volatility
  deriving DecidableEq, Repr

/-! ## Variables of each kind -/

/-- What can be read of a vehicle. -/
inductive VehicleVariable where
  | speed | position | angle | roadId | laneId | laneIndex | lanePosition | distance | co2Emission
  | routeId | edges | typeId | color | maxSpeed | length
  deriving DecidableEq, Repr

/-- What can be read of an edge. -/
inductive EdgeVariable where
  | travelTime | meanSpeed | vehicleCount | vehicleIds | occupancy | co2Emission | name
  deriving DecidableEq, Repr

/-- What can be read of a lane. -/
inductive LaneVariable where
  | length | maxSpeed | shape | edgeId | linkCount | meanSpeed | vehicleCount | vehicleIds | occupancy
  deriving DecidableEq, Repr

/-- What can be read of a traffic light. -/
inductive TrafficLightVariable where
  | state | phase | program | nextSwitch | controlledLanes
  deriving DecidableEq, Repr

def VehicleVariable.info : VehicleVariable → VariableInfo
  | speed => ⟨"Speed", Code.speed, .double, .perStep⟩
  | position => ⟨"Position", Code.position, .position, .perStep⟩
  | angle => ⟨"Angle", Code.angle, .double, .perStep⟩
  | roadId => ⟨"RoadId", Code.roadId, .text, .perStep⟩
  | laneId => ⟨"LaneId", Code.laneId, .text, .perStep⟩
  | laneIndex => ⟨"LaneIndex", Code.laneIndex, .int, .perStep⟩
  | lanePosition => ⟨"LanePosition", Code.lanePosition, .double, .perStep⟩
  | distance => ⟨"Distance", Code.distance, .double, .perStep⟩
  | co2Emission => ⟨"Co2Emission", Code.co2Emission, .double, .perStep⟩
  | routeId => ⟨"RouteId", Code.routeId, .text, .static⟩
  | edges => ⟨"Edges", Code.edges, .textList, .static⟩
  | typeId => ⟨"TypeId", Code.typeId, .text, .static⟩
  | color => ⟨"Color", Code.color, .color, .static⟩
  | maxSpeed => ⟨"MaxSpeed", Code.maxSpeed, .double, .static⟩
  | length => ⟨"Length", Code.length, .double, .static⟩

def VehicleVariable.all : List VehicleVariable :=
  [speed, position, angle, roadId, laneId, laneIndex, lanePosition, distance, co2Emission, routeId,
    edges, typeId, color, maxSpeed, length]

/-- The place of a variable in the order of its kind. -/
def VehicleVariable.index (x : VehicleVariable) : Nat := all.idxOf x

def EdgeVariable.info : EdgeVariable → VariableInfo
  | travelTime => ⟨"TravelTime", Code.edgeTravelTime, .double, .parameterized⟩
  | meanSpeed => ⟨"MeanSpeed", Code.lastStepMeanSpeed, .double, .perStep⟩
  | vehicleCount => ⟨"VehicleCount", Code.lastStepVehicleCount, .int, .perStep⟩
  | vehicleIds => ⟨"VehicleIds", Code.lastStepVehicleIds, .textList, .perStep⟩
  | occupancy => ⟨"Occupancy", Code.lastStepOccupancy, .double, .perStep⟩
  | co2Emission => ⟨"Co2Emission", Code.co2Emission, .double, .perStep⟩
  | name => ⟨"Name", Code.name, .text, .static⟩

def EdgeVariable.all : List EdgeVariable :=
  [travelTime, meanSpeed, vehicleCount, vehicleIds, occupancy, co2Emission, name]

/-- The place of a variable in the order of its kind. -/
def EdgeVariable.index (x : EdgeVariable) : Nat := all.idxOf x

def LaneVariable.info : LaneVariable → VariableInfo
  | length => ⟨"Length", Code.length, .double, .static⟩
  | maxSpeed => ⟨"MaxSpeed", Code.maxSpeed, .double, .static⟩
  | shape => ⟨"Shape", Code.shape, .polygon, .static⟩
  | edgeId => ⟨"EdgeId", Code.edgeId, .text, .static⟩
  | linkCount => ⟨"LinkCount", Code.linkCount, .ubyte, .static⟩
  | meanSpeed => ⟨"MeanSpeed", Code.lastStepMeanSpeed, .double, .perStep⟩
  | vehicleCount => ⟨"VehicleCount", Code.lastStepVehicleCount, .int, .perStep⟩
  | vehicleIds => ⟨"VehicleIds", Code.lastStepVehicleIds, .textList, .perStep⟩
  | occupancy => ⟨"Occupancy", Code.lastStepOccupancy, .double, .perStep⟩

def LaneVariable.all : List LaneVariable :=
  [length, maxSpeed, shape, edgeId, linkCount, meanSpeed, vehicleCount, vehicleIds, occupancy]

/-- The place of a variable in the order of its kind. -/
def LaneVariable.index (x : LaneVariable) : Nat := all.idxOf x

def TrafficLightVariable.info : TrafficLightVariable → VariableInfo
  | state => ⟨"State", Code.signalState, .text, .perStep⟩
  | phase => ⟨"Phase", Code.currentPhase, .int, .perStep⟩
  | program => ⟨"Program", Code.currentProgram, .text, .perStep⟩
  | nextSwitch => ⟨"NextSwitch", Code.nextSwitch, .double, .perStep⟩
  | controlledLanes => ⟨"ControlledLanes", Code.controlledLanes, .textList, .static⟩

def TrafficLightVariable.all : List TrafficLightVariable :=
  [state, phase, program, nextSwitch, controlledLanes]

/-- The place of a variable in the order of its kind. -/
def TrafficLightVariable.index (x : TrafficLightVariable) : Nat := all.idxOf x

/-! ## Kinds -/

/-- The kinds of entity. -/
inductive Kind where
  | vehicle
  | edge
  | lane
  | trafficLight
  deriving DecidableEq, Repr

namespace Kind

/-- The variables of a kind. -/
def Variable : Kind → Type
  | vehicle => VehicleVariable
  | edge => EdgeVariable
  | lane => LaneVariable
  | trafficLight => TrafficLightVariable

/-- The command that reads variables of a kind. -/
def readCommand : Kind → UInt8
  | vehicle => Code.getVehicle
  | edge => Code.getEdge
  | lane => Code.getLane
  | trafficLight => Code.getTrafficLight

/-- The command that changes entities of a kind. -/
def changeCommand : Kind → UInt8
  | vehicle => Code.setVehicle
  | edge => Code.setEdge
  | lane => Code.setLane
  | trafficLight => Code.setTrafficLight

/-- Every variable of a kind, in order. -/
def allVariables : (k : Kind) → List k.Variable
  | vehicle => VehicleVariable.all
  | edge => EdgeVariable.all
  | lane => LaneVariable.all
  | trafficLight => TrafficLightVariable.all

/-- What is known about a variable. -/
def info : (k : Kind) → k.Variable → VariableInfo
  | vehicle => VehicleVariable.info
  | edge => EdgeVariable.info
  | lane => LaneVariable.info
  | trafficLight => TrafficLightVariable.info

/-- The variables of a kind that vary from step to step. -/
def steppedVariables (k : Kind) : List k.Variable :=
  k.allVariables.filter fun x => (k.info x).volatility == .perStep

/-- The place of a variable in the order of its kind. -/
def index : (k : Kind) → k.Variable → Nat
  | vehicle => VehicleVariable.index
  | edge => EdgeVariable.index
  | lane => LaneVariable.index
  | trafficLight => TrafficLightVariable.index

end Kind

end TrafficControl
