import TrafficControl.Number.Format

/-!
# The fewest digits that read back

`BinaryFormat.shortest` finds, for a positive number of a binary format, a decimal with as few
digits as any decimal that rounds to that number, and among those the nearest. It tries one digit,
two digits and so on: on each grid only the two neighbours of the number can be nearest, and both
are compared with the ends of the interval that rounds to it, in exact arithmetic.
-/

namespace TrafficControl

/-- The decimal number `digits * 10 ^ exponent`. -/
structure Decimal where
  digits : Nat
  exponent : Int
  deriving DecidableEq, Repr

/-- Which of two equally near decimals is chosen. -/
inductive Tie where
  | toEven
  | up
  deriving DecidableEq, Repr

/-- Drops final zero digits, at most `fuel` of them. -/
def Decimal.stripZeros : Nat → Decimal → Decimal
  | 0, d => d
  | fuel + 1, d =>
    if d.digits ≠ 0 ∧ d.digits % 10 = 0 then stripZeros fuel ⟨d.digits / 10, d.exponent + 1⟩ else d

/-- The least `k` with `num / den < 10 ^ k`, for a positive quotient. -/
def decimalMagnitude (num den : Nat) : Int :=
  if den ≤ num then (Nat.toDigits 10 (num / den)).length
  else
    let k : Int := 1 - (Nat.toDigits 10 (den / num)).length
    let (n, d) := scaleDecimal num den (-k)
    if n < d then k else k + 1

/-- The interval of reals that round to a number, as numerators over one denominator: its lower
end, the number itself, its upper end, the denominator, and whether the ends belong to it. -/
structure RoundingInterval where
  low : Nat
  value : Nat
  high : Nat
  den : Nat
  closed : Bool

namespace RoundingInterval

/-- The interval that rounds to `m * 2 ^ e`. Just below a power of two the grid is twice as fine,
and an even significand wins both ties. -/
def of (f : BinaryFormat) (m : Nat) (e : Int) : RoundingInterval :=
  let below := if m = f.hidden ∧ f.leastExponent < e then 1 else 2
  let (unit, den) := scaleBinary 1 1 (e - 2)
  { low := (4 * m - below) * unit
    value := 4 * m * unit
    high := (4 * m + 2) * unit
    den := den
    closed := m % 2 == 0 }

/-- The multiple of `10 ^ e` inside the interval that is nearest to the number, if there is one. -/
def onGrid? (r : RoundingInterval) (tie : Tie) (e : Int) : Option Nat :=
  let (value, unit) := scaleDecimal r.value r.den (-e)
  let low := (scaleDecimal r.low r.den (-e)).1
  let high := (scaleDecimal r.high r.den (-e)).1
  let c := value / unit
  let belowInside := if r.closed then low ≤ c * unit else low < c * unit
  let aboveInside := if r.closed then (c + 1) * unit ≤ high else (c + 1) * unit < high
  if belowInside then
    if aboveInside then
      if 2 * value < (2 * c + 1) * unit then some c
      else if (2 * c + 1) * unit < 2 * value then some (c + 1)
      else match tie with
        | .toEven => some (c + c % 2)
        | .up => some (c + 1)
    else some c
  else if aboveInside then some (c + 1)
  else none

/-- The nearest decimal with the fewest digits, trying at most `fuel` counts from `count` on. -/
def search (r : RoundingInterval) (tie : Tie) (magnitude : Int) : Nat → Nat → Decimal
  | 0, count => ⟨(scaleDecimal r.value r.den (count - magnitude)).1, magnitude - count⟩
  | fuel + 1, count =>
    match r.onGrid? tie (magnitude - count) with
    | some digits => Decimal.stripZeros (count + 1) ⟨digits, magnitude - count⟩
    | none => search r tie magnitude fuel (count + 1)

end RoundingInterval

/-- The nearest decimal with the fewest digits that rounds to `m * 2 ^ e`. A format of `p`
significand bits needs at most `p / 3 + 2` digits. -/
def BinaryFormat.shortest (f : BinaryFormat) (tie : Tie) (m : Nat) (e : Int) : Decimal :=
  let r := RoundingInterval.of f m e
  r.search tie (decimalMagnitude r.value r.den) (f.fractionBits / 3 + 3) 1

end TrafficControl
