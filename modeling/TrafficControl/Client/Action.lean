import TrafficControl.Client.Log
import TrafficControl.Client.Notice
import TrafficControl.Transport.Exchange

/-!
# Clients and what they do

A `Client` is a link to the simulator together with everything the client remembers. An `Action`
either succeeds or fails, and leaves a client in either case: nothing is undone by a failure.
-/

namespace TrafficControl

/-- The objects that are registered under ids. -/
abbrev Registry := Std.ExtTreeMap String Handle

/-- What a client remembers. -/
structure Memory where
  cells : Cells := {}
  vehicles : Std.ExtTreeMap Handle VehicleRecord := ∅
  /-- What each repository holds. -/
  holdings : Std.ExtTreeMap Handle Registry := ∅
  /-- The handle of the next new object. -/
  nextHandle : Handle := 0
  log : Array LogRecord := #[]
  journal : Array JournalEntry := #[]

instance : Inhabited Memory := ⟨{}⟩

namespace Memory

/-- Changes what is remembered about queries. -/
def mapCells (f : Cells → Cells) (m : Memory) : Memory := { m with cells := f m.cells }

/-- What is known about a vehicle. -/
def vehicle (m : Memory) (h : Handle) : VehicleRecord := m.vehicles.getD h {}

def setVehicle (h : Handle) (r : VehicleRecord) (m : Memory) : Memory :=
  { m with vehicles := m.vehicles.insert h r }

/-- What a repository holds. -/
def holding (m : Memory) (h : Handle) : Registry := m.holdings.getD h ∅

def setHolding (h : Handle) (objects : Registry) (m : Memory) : Memory :=
  { m with holdings := m.holdings.insert h objects }

def addLog (r : LogRecord) (m : Memory) : Memory := { m with log := m.log.push r }

/-- Writes a notice into the journal. -/
def note (tag : String) (notice : Notice) (m : Memory) : Memory :=
  { m with journal := m.journal.push ⟨tag, notice⟩ }

/-- Makes a new object, of which nothing is remembered yet. -/
def fresh (m : Memory) : Handle × Memory :=
  (m.nextHandle, { m with nextHandle := m.nextHandle + 1 })

end Memory

/-- A link to the simulator and what its client remembers. -/
structure Client (σ : Type) where
  link : σ
  /-- How many round trips were completed. -/
  roundTrips : Nat := 0
  memory : Memory := {}

/-- What a client does. -/
abbrev Action (σ : Type) := EStateM ClientError (Client σ)

namespace Action

variable {σ α : Type}

/-- Passes an outcome on. -/
def ofExcept : Except ClientError α → Action σ α
  | .ok a => pure a
  | .error e => throw e

/-- Passes an outcome on whose failure is one of framing. -/
def framed : Except FrameError α → Action σ α
  | .ok a => pure a
  | .error e => throw (.framing e)

/-- What the client remembers. -/
def memory : Action σ Memory := Client.memory <$> get

/-- Changes what the client remembers and gives a result of it. -/
def modifyMemory (f : Memory → α × Memory) : Action σ α :=
  modifyGet fun c =>
    let (a, m) := f c.memory
    (a, { c with memory := m })

/-- Changes what the client remembers. -/
def update (f : Memory → Memory) : Action σ Unit := modifyMemory fun m => ((), f m)

/-- Changes what is remembered about queries. -/
def updateCells (f : Cells → Cells) : Action σ Unit := update (Memory.mapCells f)

/-- Makes a new object. -/
def fresh : Action σ Handle := modifyMemory Memory.fresh

def log (r : LogRecord) : Action σ Unit := update (Memory.addLog r)

/-- Sends a framed request and gives the framed response. -/
def transact [Link σ] (request : Bytes) : Action σ Bytes := fun c =>
  match Link.transact request c.link with
  | .ok reply link => .ok reply { c with link }
  | .error e link => .error e { c with link }

/-- Makes a round trip, which counts once the response is complete. -/
def roundTrip [Link σ] (request : Bytes) : Action σ Bytes := do
  let reply ← transact request
  modify fun c => { c with roundTrips := c.roundTrips + 1 }
  pure reply

/-- Starts to count round trips anew. -/
def resetCount : Action σ Unit := modify fun c => { c with roundTrips := 0 }

end Action

end TrafficControl
