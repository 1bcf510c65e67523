import TrafficControl.Entity.Repository
import TrafficControl.Entity.Vehicle

/-!
# Observers and listeners

Observers are told about vehicles that enter, leave or are teleported. Listeners are told about
every completed step: queries, entities and repositories are, so that they forget what is out of
date. Being told may change what the client remembers, and cannot fail.
-/

namespace TrafficControl

/-! ## Observers -/

/-- Someone who is told about vehicles. -/
structure Observer where
  /-- What being told does. -/
  tell : Notice → Memory → Memory

/-- The log record of a notice. -/
def Notice.logRecord? : Notice → Option LogRecord
  | departed vehicle time => some (.departed time vehicle.id)
  | arrived vehicle time => some (.arrived time vehicle.id vehicle.record.departTime)
  | teleportStarted id time => some (.teleportStarted time id)
  | teleportEnded id time => some (.teleportEnded time id)
  | stepped _ | built _ => none

namespace Observer

/-- Writes a log record for every notice. -/
def logging : Observer where
  tell notice m := notice.logRecord?.elim m m.addLog

/-- Writes every notice into the journal. -/
def recorder (tag : String) : Observer where
  tell notice m := m.note tag notice

def silent : Observer where
  tell _ m := m

/-- Tells every observer, in order. -/
def tellAll (observers : List Observer) (notice : Notice) (m : Memory) : Memory :=
  observers.foldl (fun m o => o.tell notice m) m

end Observer

/-! ## Listeners -/

/-- Someone who is told about steps. -/
structure Listener where
  /-- What the news of a step that was completed at a time does. -/
  nextStep : Binary64 → Memory → Memory

namespace Listener

/-- The answer to a read is out of date after every step. -/
def read (q : ReadQuery) : Listener where
  nextStep _ m := m.mapCells (·.forget q.cell)

def entity {k : Kind} (e : Entity k) : Listener where
  nextStep _ m := m.mapCells e.nextStep

def repository {k : Kind} (r : Repository k) : Listener where
  nextStep _ m := r.nextStep m

/-- Writes every step into the journal. -/
def recorder (tag : String) : Listener where
  nextStep time m := m.note tag (.stepped time)

/-- Tells every listener, in order. -/
def tellAll (listeners : List Listener) (time : Binary64) (m : Memory) : Memory :=
  listeners.foldl (fun m l => l.nextStep time m) m

end Listener

end TrafficControl
