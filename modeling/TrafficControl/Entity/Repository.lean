import TrafficControl.Entity.Entity

/-!
# Repositories

A repository holds the objects of the ids that the simulator lists. Bringing it in line keeps the
object of every id that is still listed, has a factory make one for every id that is new, and drops
the rest. If a factory fails, the repository holds what it held before.
-/

namespace TrafficControl

/-- The objects of one kind that the simulator lists. What a repository holds is remembered under
its handle. -/
structure Repository (k : Kind) where
  handle : Handle
  name : String
  /-- Whether the listing is asked for anew after every step. -/
  changing : Bool := false
  /-- Whether a step is passed on to the objects held. -/
  forwarding : Bool := false
  deriving DecidableEq, Repr

namespace Repository

variable {σ : Type} {k : Kind}

/-- Makes a repository that holds nothing yet. -/
def create (k : Kind) (name : String) (changing forwarding : Bool) : Action σ (Repository k) := do
  pure ⟨← Action.fresh, name, changing, forwarding⟩

/-- The read of the listing. -/
def idList (r : Repository k) : ReadQuery where
  cell := ⟨r.handle, 0⟩
  command := k.readCommand
  object := ""
  code := Code.idList
  type := .textList

/-- Finds an object for every id, in order: the one held, or else the one that the factory makes.
An id that is listed again keeps its object. -/
def gather (factory : String → Action σ Handle) (held : Registry) :
    List String → Registry → Action σ Registry
  | [], found => pure found
  | id :: ids, found => do
    if found.contains id then gather factory held ids found
    else
      let h ← match held[id]? with
        | some h => pure h
        | none => factory id
      gather factory held ids (found.insert id h)

/-- What a repository holds. -/
def objects (r : Repository k) (m : Memory) : Registry := m.holding r.handle

/-- What a step does to a repository and the objects it holds. -/
def nextStep (r : Repository k) (m : Memory) : Memory :=
  let cells := if r.changing then m.cells.forget r.idList.cell else m.cells
  let cells :=
    if r.forwarding then
      (r.objects m).toList.foldl (fun cells (id, h) => Entity.nextStep (k := k) ⟨h, id⟩ cells) cells
    else cells
  { m with cells }

variable [Link σ]

/-- Brings a repository in line with the simulator's listing, which it gives. -/
def ids (r : Repository k) (factory : String → Action σ Handle) : Action σ (List String) := do
  let listed ← r.idList.getAs (List String)
  let found ← gather factory (r.objects (← Action.memory)) listed ∅
  Action.update (Memory.setHolding r.handle found)
  pure listed

/-- The object of an id, if it is listed. -/
def find? (r : Repository k) (factory : String → Action σ Handle) (id : String) :
    Action σ (Option (Entity k)) := do
  discard (r.ids factory)
  pure ((r.objects (← Action.memory))[id]?.map (⟨·, id⟩))

/-- Every listed object, sorted by id. -/
def all (r : Repository k) (factory : String → Action σ Handle) : Action σ (List (Entity k)) := do
  discard (r.ids factory)
  pure ((r.objects (← Action.memory)).toList.map fun (id, h) => ⟨h, id⟩)

end Repository

end TrafficControl
