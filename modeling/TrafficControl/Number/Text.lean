import TrafficControl.Number.Binary
import TrafficControl.Number.Shortest

/-!
# The text of numbers

A `Layout` says how the shortest digits of a number are laid out: where positional notation ends,
whether a whole number keeps a fraction, and the words for what has no digits. `fixedText` writes a
number with a fixed count of places instead.
-/

namespace TrafficControl

-- Powers of natural numbers are those of the core library, whatever else is in scope.
attribute [local instance (high)] instPowNat

/-- How a number is written. `positional` is the range of point positions (digits before the
point, negative when zeros follow it) that are written without an exponent. -/
structure Layout where
  tie : Tie
  positional : Int → Bool
  wholeFraction : String
  notANumber : String
  infinity : String
  negativeInfinity : String

namespace Layout

/-- Numbers in messages: never an exponent, whole numbers bare, a tie goes up. -/
def message : Layout where
  tie := .up
  positional := fun _ => true
  wholeFraction := ""
  notANumber := "NaN"
  infinity := "inf"
  negativeInfinity := "-inf"

/-- Numbers in JSON: positional with at most `whole` digits before the point and at most `zeros`
zeros between the point and the first digit behind it, always with a fraction or an exponent, a tie
goes to the even digit, and `null` for what JSON has no number for. -/
def json (zeros whole : Nat) : Layout where
  tie := .toEven
  positional := fun point => -(zeros : Int) ≤ point ∧ point ≤ whole
  wholeFraction := ".0"
  notANumber := "null"
  infinity := "null"
  negativeInfinity := "null"

/-- Numbers of 64 bits in JSON: positional from `0.00001` to below `10 ^ 16`. -/
def json64 : Layout := json 4 16

/-- Numbers of 32 bits in JSON: positional from `0.000001` to below `10 ^ 13`. -/
def json32 : Layout := json 5 13

end Layout

/-- The decimal digits of a number. -/
def digitsOf (n : Nat) : List Char := Nat.toDigits 10 n

/-- A decimal without an exponent. -/
def Decimal.positionalText (d : Decimal) (wholeFraction : String) : List Char :=
  let ds := digitsOf d.digits
  let point : Int := ds.length + d.exponent
  if 0 ≤ d.exponent then ds ++ List.replicate d.exponent.toNat '0' ++ wholeFraction.toList
  else if point ≤ 0 then ['0', '.'] ++ List.replicate (-point).toNat '0' ++ ds
  else ds.take point.toNat ++ '.' :: ds.drop point.toNat

/-- A decimal with one digit before the point and an exponent with its sign. -/
def Decimal.exponentText (d : Decimal) : List Char :=
  let ds := digitsOf d.digits
  let exponent : Int := ds.length + d.exponent - 1
  let fraction := if ds.length ≤ 1 then [] else '.' :: ds.drop 1
  let sign := if exponent < 0 then '-' else '+'
  ds.take 1 ++ fraction ++ 'e' :: sign :: digitsOf exponent.natAbs

/-- The text of a number of a format. -/
def Layout.text (l : Layout) (f : BinaryFormat) (bits : Nat) : String :=
  match f.unpack bits with
  | .notANumber => l.notANumber
  | .infinite negative => if negative then l.negativeInfinity else l.infinity
  | .finite negative m e =>
    let d : Decimal := if m = 0 then ⟨0, 0⟩ else f.shortest l.tie m e
    let point : Int := (digitsOf d.digits).length + d.exponent
    let body :=
      if m = 0 ∨ l.positional point then d.positionalText l.wholeFraction else d.exponentText
    String.ofList (if negative then '-' :: body else body)

/-- The text with exactly `places` digits after the point, a tie going to the even digit; a number
that rounds to zero keeps its sign. -/
def Binary64.fixedText (places : Nat) (x : Binary64) : String :=
  match x.datum with
  | .notANumber => Layout.message.notANumber
  | .infinite negative => if negative then Layout.message.negativeInfinity else Layout.message.infinity
  | .finite negative m e =>
    let (num, den) := scaleBinary (m * 10 ^ places) 1 e
    let ds := digitsOf (roundHalfEven num den)
    let ds := List.replicate (places + 1 - ds.length) '0' ++ ds
    let whole := ds.take (ds.length - places)
    let fraction := if places = 0 then [] else '.' :: ds.drop (ds.length - places)
    String.ofList ((if negative then ['-'] else []) ++ whole ++ fraction)

/-- The text of a number in messages. -/
def Binary64.text (x : Binary64) : String :=
  Layout.message.text .binary64 x.bits.toNat

/-- The text of a number in JSON. -/
def Binary64.jsonText (x : Binary64) : String :=
  Layout.json64.text .binary64 x.bits.toNat

/-- The text of a number in JSON. -/
def Binary32.jsonText (x : Binary32) : String :=
  Layout.json32.text .binary32 x.bits.toNat

end TrafficControl
