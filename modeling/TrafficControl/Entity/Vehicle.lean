import TrafficControl.Entity.Entity

/-!
# Vehicles

A vehicle is made when it is first seen, since the time of its departure does not follow from its
id. Once it has left the simulation it is retired for good: what it is asked fails without a word to
the simulator.
-/

namespace TrafficControl

/-- A vehicle. -/
abbrev Vehicle := Entity .vehicle

/-- Makes a vehicle that was first seen at a time. -/
def Memory.addVehicle (id : String) (departTime : Binary64) (m : Memory) : Vehicle × Memory :=
  let (h, m) := m.fresh
  (⟨h, id⟩, m.setVehicle h { departTime })

namespace Vehicle

variable {σ : Type}

def create (id : String) (departTime : Binary64) : Action σ Vehicle :=
  Action.modifyMemory (Memory.addVehicle id departTime)

/-- A vehicle as it is now. -/
def sighting (v : Vehicle) (m : Memory) : Sighting := ⟨v.handle, v.id, m.vehicle v.handle⟩

/-- Marks a vehicle as gone and forgets what was known of it. -/
def retire (v : Vehicle) (m : Memory) : Memory :=
  (m.setVehicle v.handle { m.vehicle v.handle with retired := true }).mapCells
    (Entity.forgetAll v)

/-- Fails for a vehicle that has left the simulation. -/
def ensurePresent (v : Vehicle) : Action σ Unit := do
  if ((← Action.memory).vehicle v.handle).retired then throw (.retired v.id)

variable [Link σ]

/-- Reads a variable of a vehicle that has not left. -/
def read (α : Type) [Readable α] (v : Vehicle) (x : VehicleVariable) : Action σ α := do
  ensurePresent v
  Entity.read α v x

/-- Changes a vehicle that has not left. -/
def alter (v : Vehicle) (c : Change .vehicle) (value : Value) : Action σ Unit := do
  ensurePresent v
  (v.change c).runWith value

/-! ## Accessors -/

def speed (v : Vehicle) : Action σ Binary64 := read _ v .speed

def position (v : Vehicle) : Action σ Position := read _ v .position

def roadId (v : Vehicle) : Action σ String := read _ v .roadId

def route (v : Vehicle) : Action σ (List String) := read _ v .edges

def color (v : Vehicle) : Action σ Color := read _ v .color

/-! ## Setters -/

/-- Sends a vehicle to an edge on another way. -/
def changeTarget (v : Vehicle) (edge : String) : Action σ Unit := alter v .target (.text edge)

def setColor (v : Vehicle) (c : Color) : Action σ Unit := alter v .color (.color c)

def setMaxSpeed (v : Vehicle) (speed : Binary64) : Action σ Unit :=
  alter v .maxSpeed (.double speed)

/-- Takes a vehicle out of the simulation; the next step reports its arrival. -/
def remove (v : Vehicle) : Action σ Unit := alter v .removal (.ubyte Code.vaporized)

end Vehicle

end TrafficControl
