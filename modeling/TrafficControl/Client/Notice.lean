import TrafficControl.Client.Cells

/-!
# Notices

What observers, listeners and factories are told. A notice about a vehicle shows the vehicle as it
was at that moment.
-/

namespace TrafficControl

/-- What is known about a vehicle besides its queries. -/
structure VehicleRecord where
  /-- When this client first saw the vehicle. -/
  departTime : Binary64 := .zero
  /-- Whether the vehicle has left the simulation. -/
  retired : Bool := false
  deriving DecidableEq, Repr, Inhabited

/-- A vehicle as it was when it was told about. -/
structure Sighting where
  vehicle : Handle
  id : String
  record : VehicleRecord
  deriving DecidableEq, Repr

/-- What is told. -/
inductive Notice where
  | departed (vehicle : Sighting) (time : Binary64)
  | arrived (vehicle : Sighting) (time : Binary64)
  | teleportStarted (id : String) (time : Binary64)
  | teleportEnded (id : String) (time : Binary64)
  /-- A step was completed. -/
  | stepped (time : Binary64)
  /-- A repository's factory built the object of an id. -/
  | built (id : String)
  deriving DecidableEq, Repr

/-- A notice in the journal, under the tag of whoever wrote it down. -/
structure JournalEntry where
  tag : String
  notice : Notice
  deriving DecidableEq, Repr

end TrafficControl
