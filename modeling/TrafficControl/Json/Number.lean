import TrafficControl.Json.Tree
import TrafficControl.Number.Binary

/-!
# Numbers of JSON

A number is gathered into a significand of 64 bits and a power of ten. Digits that no longer fit
the significand count as zeros before the point and are dropped behind it. What has neither a
fraction nor an exponent and fits 64 bits is an integer; all else is the significand, as a number of
64 bits, multiplied or divided by the power of ten, which need not be the nearest number to the one
written. Too large a result is refused.
-/

namespace TrafficControl.Json

/-- A number as read. -/
inductive Number where
  | integer (n : Int)
  | real (x : Binary64)
  deriving DecidableEq, Repr

/-- The largest significand. -/
def maxSignificand : Nat := UInt64.size - 1

/-- Gathers digits while they fit; gives the digits that are left. -/
def gather : Nat → List Nat → Nat × List Nat
  | s, [] => (s, [])
  | s, d :: ds => if s * 10 + d ≤ maxSignificand then gather (s * 10 + d) ds else (s, d :: ds)

/-- The power of ten as a number of 64 bits. -/
def powerOfTen (e : Nat) : Binary64 := .ofDecimal false 1 e

/-- A number times a power of ten, which is taken in steps while it is too small to be a number of
its own. -/
def scale (x : Binary64) (e : Int) : Option Binary64 :=
  if 0 ≤ e then
    if e ≤ 308 then
      let y := x * powerOfTen e.toNat
      if y.isFinite then some y else none
    else if x = .zero then some x
    else none
  else if -308 ≤ e then some (x / powerOfTen (-e).toNat)
  else if x = .zero then some x
  else scale (x / powerOfTen 308) (e + 308)
termination_by (-e).toNat

/-- The number `digits * 10 ^ e` with a sign. -/
def real? (negative : Bool) (significand : Nat) (e : Int) : Option Number := do
  let x ← scale (.ofInt significand) e
  pure (.real (if negative then -x else x))

/-- The value of decimal digits. -/
def digitsValue (ds : List Nat) : Nat := ds.foldl (fun n d => n * 10 + d) 0

/-- The largest exponent that is looked at. -/
def maxExponent : Nat := 0x7fffffff

/-- The number that a text stands for, unless it is out of range. -/
def NumberText.value? (n : NumberText) : Option Number :=
  let (whole, left) := gather 0 n.whole
  let (significand, dropped) := gather whole n.fraction
  let e : Int := (left.length : Int) - (n.fraction.length - dropped.length : Nat)
  match n.exponent with
  | some ds =>
    let exponent := digitsValue ds
    if maxExponent < exponent then
      if significand ≠ 0 ∧ !n.exponentNegative then none
      else some (.real (if n.negative then -.zero else .zero))
    else real? n.negative significand (if n.exponentNegative then e - exponent else e + exponent)
  | none =>
    if n.fraction ≠ [] ∨ left ≠ [] then real? n.negative significand e
    else if !n.negative then some (.integer significand)
    else if significand = 0 ∨ 0x8000000000000000 < significand then
      some (.real (-(Binary64.ofInt significand)))
    else some (.integer (-significand))

/-! ## Reading trees as numbers -/

/-- An integer between two bounds. -/
def Tree.integer? (low high : Int) : Tree → Option Int
  | .number n =>
    match n.value? with
    | some (.integer i) => if low ≤ i ∧ i ≤ high then some i else none
    | _ => none
  | _ => none

/-- A number of 64 bits. -/
def Tree.binary64? : Tree → Option Binary64
  | .number n =>
    match n.value? with
    | some (.integer i) => some (.ofInt i)
    | some (.real x) => some x
    | none => none
  | _ => none

/-- A number of 32 bits; one too large for it becomes infinite. -/
def Tree.binary32? : Tree → Option Binary32
  | .number n =>
    match n.value? with
    | some (.integer i) => some (.ofInt i)
    | some (.real x) => some x.narrow
    | none => none
  | _ => none

/-- A text. -/
def Tree.text? : Tree → Option String
  | .string parts => Json.text? parts
  | _ => none

/-! ## Reading trees as records -/

/-- The trees of named fields, from an object or from an array in field order. A field may be
missing; fields with other names are ignored, and a field given twice is refused. -/
def Tree.record? (names : List String) : Tree → Option (List (Option Tree))
  | .array items =>
    if items.length ≤ names.length then
      some (items.map some ++ List.replicate (names.length - items.length) none)
    else none
  | .object fields => do
    let named ← fields.mapM fun (key, t) => do pure (← Json.text? key, t)
    names.mapM fun name =>
      match named.filter (fun field => field.1 == name) with
      | [] => some none
      | [(_, t)] => some (some t)
      | _ => none
  | _ => none

end TrafficControl.Json
