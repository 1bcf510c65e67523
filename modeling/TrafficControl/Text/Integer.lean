/-!
# Integers as text

Decimal integers as they are given in addresses and on the command line: a sign if the type has
one, or a plus, and then at least one digit.
-/

namespace TrafficControl

/-- The value of decimal digits, if there is at least one and nothing else. -/
def digits? : List Char → Option Nat
  | [] => none
  | cs =>
    cs.foldlM (fun n c => if c.isDigit then some (n * 10 + (c.toNat - '0'.toNat)) else none) 0

/-- An unsigned integer below a bound. -/
def unsigned? (bound : Nat) (s : String) : Option Nat := do
  let n ← digits? (match s.toList with | '+' :: cs => cs | cs => cs)
  if n < bound then some n else none

/-- An integer that may carry a minus and that must not be negative, below a bound. -/
def unsignedOfSigned? (bound : Nat) (s : String) : Option Nat :=
  match s.toList with
  | '-' :: cs => do
    let n ← digits? cs
    if n = 0 ∧ 0 < bound then some 0 else none
  | _ => unsigned? bound s

end TrafficControl
