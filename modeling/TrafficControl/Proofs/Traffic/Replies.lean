import TrafficControl.Proofs.Query.Answering
import TrafficControl.Proofs.Transport.Delivery
import TrafficControl.Traffic.Simulation

/-!
# Replies to the batches of a lifecycle

What a simulator sends back when a lifecycle takes over the vehicles that are there, when it ticks,
and when a repository asks for its listing.
-/

namespace TrafficControl

/-- The container that answers a read with a value. -/
def ReadQuery.container (q : ReadQuery) (v : Value) : Container :=
  ⟨⟨q.command, Code.accepted, ""⟩, .single (q.answer v)⟩

/-- What a simulator says about a tick, as it says it. -/
structure Listings where
  time : Binary64 := .zero
  active : List String := []
  teleportStarted : List String := []
  teleportEnded : List String := []
  arrived : List String := []

namespace Lifecycle

def bootstrapReply (l : Lifecycle) (said : Listings) : List Container :=
  [l.activeQuery.container (.textList said.active), l.timeQuery.container (.double said.time)]

def tickReply (l : Lifecycle) (said : Listings) : List Container :=
  [⟨⟨Code.simulationStep, Code.accepted, ""⟩, .several []⟩,
    l.activeQuery.container (.textList said.active),
    l.teleportStartingQuery.container (.textList said.teleportStarted),
    l.teleportEndingQuery.container (.textList said.teleportEnded),
    l.arrivedQuery.container (.textList said.arrived), l.timeQuery.container (.double said.time)]

end Lifecycle

end TrafficControl
