/-!
# The numbers of the protocol

Commands, result codes and variables are single bytes. A variable's byte means something only
together with the command that asks for it, so one byte occurs under several names.
-/

namespace TrafficControl.Code

/-! ## Control commands -/

def getVersion : UInt8 := 0x00
def load : UInt8 := 0x01
def simulationStep : UInt8 := 0x02
def setOrder : UInt8 := 0x03
def close : UInt8 := 0x7f

/-! ## Commands that read variables -/

def getTrafficLight : UInt8 := 0xa2
def getLane : UInt8 := 0xa3
def getVehicle : UInt8 := 0xa4
def getEdge : UInt8 := 0xaa
def getSimulation : UInt8 := 0xab

/-- The command byte of an answer is that of the question plus this. -/
def answerOffset : UInt8 := 0x10

/-! ## Commands that change state -/

def setTrafficLight : UInt8 := 0xc2
def setLane : UInt8 := 0xc3
def setVehicle : UInt8 := 0xc4
def setVehicleType : UInt8 := 0xc5
def setRoute : UInt8 := 0xc6
def setPointOfInterest : UInt8 := 0xc7
def setPolygon : UInt8 := 0xc8
def setEdge : UInt8 := 0xca
def setInterface : UInt8 := 0xcc

/-- The commands that are answered by a status alone. The stream of answers does not say so
itself. -/
def statusOnly : List UInt8 :=
  [load, setOrder, close, setTrafficLight, setLane, setVehicle, setVehicleType, setRoute,
    setPointOfInterest, setPolygon, setEdge, setInterface]

/-- Whether a command is answered by a status alone. -/
def isStatusOnly (command : UInt8) : Bool := statusOnly.contains command

/-! ## Result codes -/

def accepted : UInt8 := 0x00

/-! ## Variables that every domain lists -/

def idList : UInt8 := 0x00
def name : UInt8 := 0x1b

/-! ## Aggregates over the last step -/

def lastStepVehicleCount : UInt8 := 0x10
def lastStepMeanSpeed : UInt8 := 0x11
def lastStepVehicleIds : UInt8 := 0x12
def lastStepOccupancy : UInt8 := 0x13

/-! ## Traffic lights -/

def signalState : UInt8 := 0x20
def phaseIndex : UInt8 := 0x22
def program : UInt8 := 0x23
def controlledLanes : UInt8 := 0x26
def currentPhase : UInt8 := 0x28
def currentProgram : UInt8 := 0x29
def nextSwitch : UInt8 := 0x2d

/-! ## Lanes and edges -/

def linkCount : UInt8 := 0x30
def edgeId : UInt8 := 0x31
def edgeTravelTime : UInt8 := 0x58

/-! ## Vehicles and what they share with roads -/

def speed : UInt8 := 0x40
def maxSpeed : UInt8 := 0x41
def position : UInt8 := 0x42
def angle : UInt8 := 0x43
def length : UInt8 := 0x44
def color : UInt8 := 0x45
def shape : UInt8 := 0x4e
def typeId : UInt8 := 0x4f
def roadId : UInt8 := 0x50
def laneId : UInt8 := 0x51
def laneIndex : UInt8 := 0x52
def routeId : UInt8 := 0x53
def edges : UInt8 := 0x54
def lanePosition : UInt8 := 0x56
def co2Emission : UInt8 := 0x60
def distance : UInt8 := 0x84

/-! ## Changes to vehicles -/

def changeTarget : UInt8 := 0x31
def remove : UInt8 := 0x81
def addFull : UInt8 := 0x85

/-- The reason given for a removal that the client asks for. -/
def vaporized : UInt8 := 0x03

/-! ## The simulation as a whole -/

def time : UInt8 := 0x66
def teleportStarting : UInt8 := 0x76
def teleportEnding : UInt8 := 0x78
def arrived : UInt8 := 0x7a
def stepLength : UInt8 := 0x7b
def netBoundary : UInt8 := 0x7c
def minExpected : UInt8 := 0x7d

end TrafficControl.Code
