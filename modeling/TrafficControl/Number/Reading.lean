import TrafficControl.Number.Binary
import TrafficControl.Text.Integer

/-!
# Reading numbers

A number is given as a sign, decimal digits with at most one point, and an exponent, or in words:
`inf`, `infinity` and `nan`, in letters of either case. It is the nearest number to what is written;
too large a number is infinite.
-/

namespace TrafficControl

/-- A sign in front of a text, and the rest. -/
def takeSign : List Char → Bool × List Char
  | '-' :: cs => (true, cs)
  | '+' :: cs => (false, cs)
  | cs => (false, cs)

/-- The magnitude that a word stands for. -/
def numberWord? (cs : List Char) : Option Binary64 :=
  let word := String.ofList (cs.map Char.toLower)
  if word = "inf" ∨ word = "infinity" then some (.ofNatBits BinaryFormat.binary64.infinity)
  else if word = "nan" then
    some (.ofNatBits (BinaryFormat.binary64.infinity + BinaryFormat.binary64.quietBit))
  else none

/-- The exponent behind the digits; none is zero. -/
def exponent? : List Char → Option Int
  | [] => some 0
  | e :: cs =>
    if e = 'e' ∨ e = 'E' then
      let (negative, cs) := takeSign cs
      (digits? cs).map fun n => if negative then -(n : Int) else n
    else none

/-- The magnitude of digits with at most one point and an exponent. -/
def decimal? (cs : List Char) : Option Binary64 := do
  let whole := cs.takeWhile Char.isDigit
  let rest := cs.dropWhile Char.isDigit
  let afterPoint := match rest with | '.' :: cs => cs | _ => []
  let fraction := afterPoint.takeWhile Char.isDigit
  let rest := match rest with | '.' :: cs => cs.dropWhile Char.isDigit | cs => cs
  let digits ← digits? (whole ++ fraction)
  let exponent ← exponent? rest
  pure (.ofDecimal false digits (exponent - fraction.length))

/-- The number that a text stands for. -/
def Binary64.ofText? (s : String) : Option Binary64 := do
  let (negative, cs) := takeSign s.toList
  let magnitude ← (decimal? cs).orElse fun _ => numberWord? cs
  pure (if negative then -magnitude else magnitude)

end TrafficControl
