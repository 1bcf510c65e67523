import TrafficControl.Proofs.Traffic.Forgetting

/-!
# Steps in any order

A step tells the registered vehicles, and the objects that the repositories hold, one after another.
Telling an entity forgets some answers, and it does not matter in which order answers are forgotten. A
step that comes to the entries of these registries in another order is therefore the same step
(`Simulation.stepToIn_eq`).
-/

namespace TrafficControl

variable {σ : Type} {k : Kind}

/-! ### Entities in another order -/

/-- It does not matter in which order entities are told about a step. -/
theorem Entity.tellAll_perm {objects objects' : List (String × Handle)} (h : objects.Perm objects')
    (m : Memory) : Entity.tellAll k objects m = Entity.tellAll k objects' m := by
  refine h.foldl_eq' (fun p _ q _ m => ?_) m
  exact congrArg (fun cells => m.mapCells fun _ => cells) (m.cells.forgetAll_comm _ _)

/-! ### Steps in another order -/

/-- A way to come to the entries of a registry, one after another. -/
structure Enumeration where
  entries : Registry → List (String × Handle)
  perm : ∀ objects, (entries objects).Perm objects.toList

/-- What a step does to a repository that comes to its objects in another order. -/
def Repository.nextStepIn (o : Enumeration) (r : Repository k) (m : Memory) : Memory :=
  (if r.forwarding then Entity.tellAll k (o.entries (r.objects m)) else id)
    (if r.changing then m.mapCells (·.forget r.idList.cell) else m)

theorem Repository.nextStepIn_eq (o : Enumeration) (r : Repository k) (m : Memory) :
    r.nextStepIn o m = r.nextStep m := by
  rw [nextStep_eq, nextStepIn]
  cases r.forwarding
  · rfl
  · exact Entity.tellAll_perm (o.perm _) _

/-- The second half of a tick that comes to the registered vehicles in another order. -/
def Lifecycle.turnIn (o : Enumeration) (observers : List Observer) (listeners : List Listener)
    (l : Lifecycle) (a : TickAnswer) (m : Memory) : Lifecycle × Memory :=
  let (live, m) := afterReturns observers l a m
  let m := tellTeleports observers a m
  let m := Entity.tellAll .vehicle (o.entries live) m
  let m := Listener.tellAll listeners a.time m
  ({ l with active := a.active, clock := a.time, live }, m)

theorem Lifecycle.turnIn_eq (o : Enumeration) (observers : List Observer) (listeners : List Listener)
    (l : Lifecycle) (a : TickAnswer) (m : Memory) :
    turnIn o observers listeners l a m = turn observers listeners l a m := by
  refine Prod.ext rfl ?_
  rw [turn_snd]
  exact congrArg (Listener.tellAll listeners a.time)
    (Entity.tellAll_perm (o.perm (afterReturns observers l a m).1) _)

namespace Simulation

/-- Everyone who is told about a step, with repositories that come to their objects in other orders. -/
def allListenersIn (held : Kind → Enumeration) (s : Simulation) : List Listener :=
  [⟨fun _ => s.vehicles.nextStepIn (held .vehicle)⟩, ⟨fun _ => s.edges.nextStepIn (held .edge)⟩,
    ⟨fun _ => s.lanes.nextStepIn (held .lane)⟩,
    ⟨fun _ => s.trafficLights.nextStepIn (held .trafficLight)⟩, .read s.minExpectedQuery] ++ s.listeners

theorem allListenersIn_eq (held : Kind → Enumeration) (s : Simulation) :
    s.allListenersIn held = s.allListeners := by
  have hrepository : ∀ {k : Kind} (o : Enumeration) (r : Repository k),
      (⟨fun _ => r.nextStepIn o⟩ : Listener) = .repository r := by
    intro k o r
    unfold Listener.repository
    congr
    funext _ m
    exact r.nextStepIn_eq o m
  unfold allListenersIn allListeners
  simp only [hrepository]

variable [Link σ]

/-- Advances to a time, coming to the registered vehicles and to what each repository holds in other
orders. -/
def stepToIn (live : Enumeration) (held : Kind → Enumeration) (s : Simulation) (target : Binary64) :
    Action σ (StepEvents × Simulation) := do
  let a ← s.lifecycle.ask target
  let lifecycle ← Action.modifyMemory
    (s.lifecycle.turnIn live s.observers (s.allListenersIn held) a)
  pure (s.lifecycle.events a, { s with lifecycle })

/-- The order does not matter for a step. -/
theorem stepToIn_eq (live : Enumeration) (held : Kind → Enumeration) (s : Simulation)
    (target : Binary64) : (s.stepToIn live held target : Action σ _) = s.stepTo target := by
  have hturn : ∀ a, s.lifecycle.turnIn live s.observers (s.allListenersIn held) a =
      s.lifecycle.turn s.observers s.allListeners a := by
    intro a
    funext m
    rw [allListenersIn_eq, Lifecycle.turnIn_eq]
  unfold stepToIn stepTo Lifecycle.advance
  simp only [hturn, bind_assoc, pure_bind]

end Simulation

end TrafficControl
