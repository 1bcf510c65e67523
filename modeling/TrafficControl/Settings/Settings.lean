import TrafficControl.Number.Binary
import TrafficControl.Settings.RetryPolicy
import TrafficControl.Transport.Fault

/-!
# Client settings

Where the simulator listens, how long a step is, how round trips are kept apart and how often a
connection is tried.
-/

namespace TrafficControl

/-- How round trips are kept apart. -/
inductive LockMode where
  /-- Several threads share the connection and take turns. -/
  | shared
  /-- One thread owns the connection. -/
  | singleThreaded
  deriving DecidableEq, Repr, Inhabited

/-- Client settings. -/
structure Settings where
  host : String := "127.0.0.1"
  port : UInt16 := 8813
  /-- Seconds per step; the simulator's own step length if there is none. -/
  stepLength : Option Binary64 := none
  lockMode : LockMode := .shared
  retry : RetryPolicy := {}
  deriving DecidableEq, Repr, Inhabited

/-- Where the simulator listens. -/
def Settings.address (s : Settings) : String := s.host ++ ":" ++ toString s.port.toNat

/-- Why settings could not be loaded. -/
inductive SettingsError where
  | unreadable (fault : Fault)
  | invalid
  deriving DecidableEq, Repr

end TrafficControl
