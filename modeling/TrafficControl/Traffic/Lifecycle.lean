import TrafficControl.Traffic.IdSet
import TrafficControl.Traffic.Observer

/-!
# The lifecycle of vehicles

Time advances in ticks. A tick is one batch: the step itself, the vehicles that are active, those
that a teleport took away or brought back, those that arrived, and the time. What happened is found
by comparing the active vehicles with those of the tick before, except for teleports. A vehicle that
ends its trip within a teleport never shows up in that comparison; the listing of arrivals tells.

* `Lifecycle.bootstrap`: takes over the vehicles that are there already.
* `Lifecycle.advance`: a tick. It fails before anything but the answers is touched, or it succeeds.
* `Lifecycle.turn`: what a tick does once its answers are there; it cannot fail.
-/

namespace TrafficControl

/-- What happened during a tick. Each list is sorted. -/
structure StepEvents where
  time : Binary64
  departed : List String := []
  arrived : List String := []
  teleportStarted : List String := []
  teleportEnded : List String := []
  deriving DecidableEq, Repr, Inhabited

/-- Whether nothing happened. -/
def StepEvents.isQuiet (e : StepEvents) : Bool :=
  e.departed.isEmpty && e.arrived.isEmpty && e.teleportStarted.isEmpty && e.teleportEnded.isEmpty

/-- What the simulator says about a tick. -/
structure TickAnswer where
  time : Binary64
  active : IdSet
  teleportStarted : IdSet
  teleportEnded : IdSet
  /-- The vehicles that the simulator lists as arrived. -/
  arrived : List String

/-- Where the comparison of active vehicles stands. -/
structure Lifecycle where
  /-- Owns the queries of a tick. -/
  handle : Handle
  /-- The vehicles that were active at the last tick. -/
  active : IdSet := ∅
  /-- The time of the last tick. -/
  clock : Binary64 := .zero
  /-- The vehicles inside the simulation. -/
  live : Registry := ∅

namespace Lifecycle

variable {σ : Type}

def create : Action σ Lifecycle := do pure { handle := ← Action.fresh }

/-! ## Queries of a tick -/

def stepCell (l : Lifecycle) : Cell := ⟨l.handle, 0⟩

/-- A read of the simulation as a whole or of a listing. -/
def listing (l : Lifecycle) (index : Nat) (command code : UInt8) (type : ValueType) : ReadQuery where
  cell := ⟨l.handle, index⟩
  command := command
  object := ""
  code := code
  type := type

def timeQuery (l : Lifecycle) : ReadQuery := l.listing 0 Code.getSimulation Code.time .double

def activeQuery (l : Lifecycle) : ReadQuery := l.listing 1 Code.getVehicle Code.idList .textList

def teleportStartingQuery (l : Lifecycle) : ReadQuery :=
  l.listing 2 Code.getSimulation Code.teleportStarting .textList

def teleportEndingQuery (l : Lifecycle) : ReadQuery :=
  l.listing 3 Code.getSimulation Code.teleportEnding .textList

def arrivedQuery (l : Lifecycle) : ReadQuery :=
  l.listing 4 Code.getSimulation Code.arrived .textList

/-- The answer to a query whose batch has succeeded. -/
def fetched (α : Type) [Readable α] (q : ReadQuery) : Action σ α := do
  match q.cached? (← Action.memory).cells with
  | some v => Action.ofExcept (Readable.ofValue v)
  | none => throw (.broken (.missingListing q.code))

/-- The answer to a query as a set of ids. -/
def fetchedIds (q : ReadQuery) : Action σ IdSet := IdSet.ofIds <$> fetched (List String) q

/-! ## Bootstrap -/

/-- Registers a vehicle under its id, unless one is registered. -/
def registerNew (time : Binary64) (state : Registry × Memory) (id : String) : Registry × Memory :=
  let (live, m) := state
  if live.contains id then state
  else
    let (v, m) := m.addVehicle id time
    (live.insert id v.handle, m)

/-- Registers every vehicle of a list that is not registered. -/
def registerAll (time : Binary64) (ids : List String) (live : Registry) (m : Memory) :
    Registry × Memory :=
  ids.foldl (registerNew time) (live, m)

/-- Takes over the vehicles that are there already; they are not reported as departed. -/
def bootstrap [Link σ] (l : Lifecycle) : Action σ Lifecycle := do
  Action.dispatch [.read l.activeQuery, .read l.timeQuery]
  let time ← fetched Binary64 l.timeQuery
  let active ← fetchedIds l.activeQuery
  let live ← Action.modifyMemory (registerAll time active.toList l.live)
  Action.log (.bootstrapped time active.size)
  pure { l with active, clock := time, live }

/-! ## Ticks -/

/-- Sends the batch of a tick and gives what the simulator says. -/
def ask [Link σ] (l : Lifecycle) (target : Binary64) : Action σ TickAnswer := do
  Action.updateCells (·.setTarget l.stepCell target)
  Action.dispatch [.step l.stepCell, .read l.activeQuery, .read l.teleportStartingQuery,
    .read l.teleportEndingQuery, .read l.arrivedQuery, .read l.timeQuery]
  let time ← fetched Binary64 l.timeQuery
  let active ← fetchedIds l.activeQuery
  let teleportStarted ← fetchedIds l.teleportStartingQuery
  let teleportEnded ← fetchedIds l.teleportEndingQuery
  let arrived ← fetched (List String) l.arrivedQuery
  pure { time, active, teleportStarted, teleportEnded, arrived }

/-- The ids that departed. -/
def departedIds (l : Lifecycle) (a : TickAnswer) : List String :=
  IdSet.departures l.active a.active a.teleportEnded

/-- The ids that arrived: those that the comparison tells, and those that are registered, not
active and listed as arrived. -/
def arrivedIds (l : Lifecycle) (a : TickAnswer) : List String :=
  let listed := a.arrived.filter fun id => l.live.contains id && !a.active.contains id
  (IdSet.ofIds (IdSet.arrivals l.active a.active a.teleportStarted ++ listed)).toList

/-- What a tick reports. -/
def events (l : Lifecycle) (a : TickAnswer) : StepEvents where
  time := a.time
  departed := l.departedIds a
  arrived := l.arrivedIds a
  teleportStarted := a.teleportStarted.toList
  teleportEnded := a.teleportEnded.toList

/-- A vehicle arrives: it is no longer registered, it is retired, and the observers are told. -/
def arrive (observers : List Observer) (time : Binary64) (state : Registry × Memory) (id : String) :
    Registry × Memory :=
  let (live, m) := state
  match live[id]? with
  | some h =>
    let v : Vehicle := ⟨h, id⟩
    let m := v.retire m
    (live.erase id, Observer.tellAll observers (.arrived (v.sighting m) time) m)
  | none => (live, m.addLog (.unknownArrival time id))

/-- A vehicle departs: a new one is registered, and the observers are told. -/
def depart (observers : List Observer) (time : Binary64) (state : Registry × Memory) (id : String) :
    Registry × Memory :=
  let (live, m) := state
  let (v, m) := m.addVehicle id time
  (live.insert id v.handle, Observer.tellAll observers (.departed (v.sighting m) time) m)

/-- Tells the observers about the teleports of a tick, those that started first. -/
def tellTeleports (observers : List Observer) (a : TickAnswer) (m : Memory) : Memory :=
  let m := a.teleportStarted.toList.foldl
    (fun m id => Observer.tellAll observers (.teleportStarted id a.time) m) m
  a.teleportEnded.toList.foldl
    (fun m id => Observer.tellAll observers (.teleportEnded id a.time) m) m

/-- Tells the vehicles inside the simulation about a step. -/
def tellVehicles (live : Registry) (m : Memory) : Memory :=
  live.toList.foldl (fun m (id, h) => m.mapCells (Entity.nextStep (k := .vehicle) ⟨h, id⟩)) m

/-- What a tick does, in order: arrivals, departures, vehicles that a teleport brought back and
that are new to the client, the notices of teleports, and the news of the step for the vehicles and
then for the listeners. -/
def turn (observers : List Observer) (listeners : List Listener) (l : Lifecycle) (a : TickAnswer)
    (m : Memory) : Lifecycle × Memory :=
  let (live, m) := (l.arrivedIds a).foldl (arrive observers a.time) (l.live, m)
  let (live, m) := (l.departedIds a).foldl (depart observers a.time) (live, m)
  let (live, m) :=
    registerAll a.time (a.teleportEnded.toList.filter a.active.contains) live m
  let m := tellTeleports observers a m
  let m := tellVehicles live m
  let m := Listener.tellAll listeners a.time m
  ({ l with active := a.active, clock := a.time, live }, m)

/-- Advances to a time and reports what happened. -/
def advance [Link σ] (l : Lifecycle) (target : Binary64) (observers : List Observer)
    (listeners : List Listener) : Action σ (StepEvents × Lifecycle) := do
  let a ← l.ask target
  let next ← Action.modifyMemory (turn observers listeners l a)
  pure (l.events a, next)

/-- The vehicle registered under an id. -/
def vehicle? (l : Lifecycle) (id : String) : Option Vehicle := l.live[id]?.map (⟨·, id⟩)

end Lifecycle

end TrafficControl
