import TrafficControl.Entity.Entity

/-!
# Edges and lanes

An edge is asked for its travel time at a point in time, which its read keeps as a parameter. A lane
has a shape and a speed limit of its own.
-/

namespace TrafficControl

/-- An edge of the road network. -/
abbrev Edge := Entity .edge

/-- A lane of an edge. -/
abbrev Lane := Entity .lane

namespace Edge

variable {σ : Type} [Link σ]

/-- The travel time expected by whoever enters an edge at a time. Another time than before makes a
new request. -/
def travelTime (e : Edge) (time : Binary64) : Action σ Binary64 := do
  (e.query EdgeVariable.travelTime).setParameter (.double time)
  e.read _ EdgeVariable.travelTime

/-- Sets the travel time that routing assumes for an edge. -/
def setTravelTime (e : Edge) (seconds : Binary64) : Action σ Unit :=
  (e.change .travelTime).runWith (.compound [.double seconds])

def meanSpeed (e : Edge) : Action σ Binary64 := e.read _ EdgeVariable.meanSpeed

def vehicleCount (e : Edge) : Action σ Int32 := e.read _ EdgeVariable.vehicleCount

def vehicleIds (e : Edge) : Action σ (List String) := e.read _ EdgeVariable.vehicleIds

end Edge

namespace Lane

variable {σ : Type} [Link σ]

def length (l : Lane) : Action σ Binary64 := l.read _ LaneVariable.length

def maxSpeed (l : Lane) : Action σ Binary64 := l.read _ LaneVariable.maxSpeed

def shape (l : Lane) : Action σ (List Position) := l.read _ LaneVariable.shape

def edgeId (l : Lane) : Action σ String := l.read _ LaneVariable.edgeId

def vehicleCount (l : Lane) : Action σ Int32 := l.read _ LaneVariable.vehicleCount

def setMaxSpeed (l : Lane) (speed : Binary64) : Action σ Unit :=
  (l.change .speedLimit).runWith (.double speed)

end Lane

end TrafficControl
