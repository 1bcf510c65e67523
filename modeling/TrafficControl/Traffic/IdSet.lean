import Std.Data.ExtTreeSet

/-!
# Sets of ids

Ids are kept in sets whose listing is sorted by bytes, which for text is the order of characters.
Between two ticks the ids that appeared have departed and those that vanished have arrived, except
for vehicles that a teleport took away or brought back (`departures`, `arrivals`).
-/

namespace TrafficControl

/-- A set of ids. -/
abbrev IdSet := Std.ExtTreeSet String

namespace IdSet

/-- The set of listed ids. -/
def ofIds (ids : List String) : IdSet := Std.ExtTreeSet.ofList ids

/-- The ids that departed: active now, not before, and not back from a teleport. -/
def departures (before after teleportEnded : IdSet) : List String :=
  after.toList.filter fun id => !before.contains id && !teleportEnded.contains id

/-- The ids that arrived: active before, not now, and not taken by a teleport. -/
def arrivals (before after teleportStarted : IdSet) : List String :=
  before.toList.filter fun id => !after.contains id && !teleportStarted.contains id

end IdSet

end TrafficControl
