import TrafficControl.Proofs.Traffic.Told

/-!
# What ticks report

What a tick reports depends on the answers of the simulator alone, on those of the tick and on those of
the ticks before it: which objects the vehicles have, what else the client remembers and who is told make
no difference. `Lifecycle.reported` is therefore a function of the answers; it plays the ticks with a
client that remembers nothing and tells nobody.

* `SameFleet`: lifecycles that only differ in the objects of their vehicles.
* `SameFleet.reported_eq`: such lifecycles report the same.
-/

namespace TrafficControl

namespace Lifecycle

/-- The same vehicles are active and the same ids are registered, at the same time. -/
structure SameFleet (l l' : Lifecycle) : Prop where
  active : l.active = l'.active
  clock : l.clock = l'.clock
  live : ∀ id, id ∈ l.live ↔ id ∈ l'.live

variable {l l' : Lifecycle}

namespace SameFleet

theorem refl (l : Lifecycle) : l.SameFleet l := ⟨rfl, rfl, fun _ => Iff.rfl⟩

theorem departedIds_eq (h : l.SameFleet l') (a : TickAnswer) : l.departedIds a = l'.departedIds a := by
  unfold departedIds
  rw [h.active]

theorem arrivedIds_eq (h : l.SameFleet l') (a : TickAnswer) : l.arrivedIds a = l'.arrivedIds a := by
  have hcontains : ∀ id : String, l.live.contains id = l'.live.contains id := by
    intro id
    rw [Bool.eq_iff_iff, Std.ExtTreeMap.contains_iff_mem, Std.ExtTreeMap.contains_iff_mem, h.live]
  unfold arrivedIds
  simp only [h.active, hcontains]

theorem events_eq (h : l.SameFleet l') (a : TickAnswer) : l.events a = l'.events a := by
  unfold events
  rw [h.departedIds_eq, h.arrivedIds_eq]

/-- Lifecycles stay alike at a tick, whoever is told and whatever is remembered. -/
theorem turn (h : l.SameFleet l') (a : TickAnswer) (observers observers' : List Observer)
    (listeners listeners' : List Listener) (m m' : Memory) :
    (Lifecycle.turn observers listeners l a m).1.SameFleet
      (Lifecycle.turn observers' listeners' l' a m').1 where
  active := rfl
  clock := rfl
  live id := by
    rw [mem_turn_live_iff, mem_turn_live_iff, h.live, h.arrivedIds_eq, h.departedIds_eq]

theorem takeOver (l : Lifecycle) (time : Binary64) (active : IdSet) (m m' : Memory) :
    (l.takeOver time active m).1.SameFleet (l.takeOver time active m').1 where
  active := rfl
  clock := rfl
  live id := by
    show id ∈ (registerAll time active.toList l.live m).1 ↔
      id ∈ (registerAll time active.toList l.live m').1
    rw [mem_registerAll_iff, mem_registerAll_iff]

end SameFleet

/-- Where a lifecycle stands after a tick. -/
def after (l : Lifecycle) (a : TickAnswer) : Lifecycle := (turn [] [] l a {}).1

/-- What ticks report that are answered like this, one after another. -/
def reported : Lifecycle → List TickAnswer → List StepEvents
  | _, [] => []
  | l, a :: answers => l.events a :: (l.after a).reported answers

theorem SameFleet.reported_eq (h : l.SameFleet l') (answers : List TickAnswer) :
    l.reported answers = l'.reported answers := by
  induction answers generalizing l l' with
  | nil => rfl
  | cons a answers ih =>
    have hafter : (l.after a).SameFleet (l'.after a) := h.turn a [] [] [] [] {} {}
    rw [reported, reported, h.events_eq, ih hafter]

end Lifecycle

end TrafficControl
