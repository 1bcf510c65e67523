import Std.Data.ExtTreeMap
import TrafficControl.Protocol.Message
import TrafficControl.Protocol.Value

/-!
# Cells

What a client remembers about a query is kept in cells. A cell belongs to the object that made it,
and objects are told apart by their handles, so that whoever holds an object sees the same cells.
A cell that was never written is empty; a new object therefore starts with nothing remembered.

A read keeps its parameter and the last answer that is not out of date. A change keeps the value it
sends. The control queries keep what they send and what came back.
-/

namespace TrafficControl

/-- What objects are told apart by. -/
abbrev Handle := Nat

/-- The place of one query among those of its object. -/
structure Cell where
  owner : Handle
  index : Nat := 0
  deriving DecidableEq, Repr, Inhabited

namespace Cell

/-- Cells in order of their owners, and of their places below one owner. -/
def order : Cell → Cell → Ordering :=
  compareLex (compareOn Cell.owner) (compareOn Cell.index)

instance : Std.TransCmp order :=
  inferInstanceAs (Std.TransCmp (compareLex (compareOn Cell.owner) (compareOn Cell.index)))

/-- Cells stand at the same place in the order only if they are the same. -/
theorem order_eq_iff {a b : Cell} : order a b = .eq ↔ a = b := by
  obtain ⟨o, i⟩ := a
  obtain ⟨p, j⟩ := b
  simp [order, compareLex, compareOn, Ordering.then_eq_eq]

instance : Std.LawfulEqCmp order where
  eq_of_compare h := order_eq_iff.1 h

end Cell

/-- What is known about some cells. -/
abbrev Table (α : Type) := Std.ExtTreeMap Cell α Cell.order

/-- A container that a query took, the number of containers its batch had taken by then, and the
number left. -/
structure Taken where
  container : Container
  consumed : Nat
  remaining : Nat
  deriving DecidableEq, Repr

/-- What is remembered about queries. -/
structure Cells where
  /-- The parameter of a read. -/
  parameters : Table Value := ∅
  /-- The last answer to a read, unless it is out of date. -/
  cached : Table Value := ∅
  /-- The value that a change sends. -/
  changes : Table Value := ∅
  /-- The time that a step asks for. -/
  targets : Table Binary64 := ∅
  /-- What came back from the last step. -/
  answers : Table (List Command) := ∅
  /-- Interface level and version text of the simulator. -/
  versions : Table (Int32 × String) := ∅
  /-- What a query of raw commands took, the latest last. -/
  taken : Table (List Taken) := ∅

instance : Inhabited Cells := ⟨{}⟩

namespace Cells

/-- Empties the cache of a read. -/
def forget (cells : Cells) (c : Cell) : Cells :=
  { cells with cached := cells.cached.erase c }

/-- Empties the caches of several reads. -/
def forgetAll (cells : Cells) (cs : List Cell) : Cells :=
  cs.foldl forget cells

/-- Keeps the answer to a read. -/
def keep (cells : Cells) (c : Cell) (v : Value) : Cells :=
  { cells with cached := cells.cached.insert c v }

/-- Sets the parameter of a read. A parameter that differs from the one before puts the answer out
of date. -/
def setParameter (cells : Cells) (c : Cell) (v : Value) : Cells :=
  if cells.parameters[c]?.any (·.same v) then cells
  else { cells with parameters := cells.parameters.insert c v }.forget c

/-- Sets the value that a change sends. -/
def setChange (cells : Cells) (c : Cell) (v : Value) : Cells :=
  { cells with changes := cells.changes.insert c v }

/-- The time that a step asks for; zero before one was set. -/
def target (cells : Cells) (c : Cell) : Binary64 := cells.targets.getD c .zero

def setTarget (cells : Cells) (c : Cell) (time : Binary64) : Cells :=
  { cells with targets := cells.targets.insert c time }

def setAnswers (cells : Cells) (c : Cell) (answers : List Command) : Cells :=
  { cells with answers := cells.answers.insert c answers }

def setVersion (cells : Cells) (c : Cell) (version : Int32 × String) : Cells :=
  { cells with versions := cells.versions.insert c version }

/-- Adds to what a query of raw commands took. -/
def addTaken (cells : Cells) (c : Cell) (t : Taken) : Cells :=
  { cells with taken := cells.taken.insert c (cells.taken.getD c [] ++ [t]) }

end Cells

end TrafficControl
