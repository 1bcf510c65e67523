/-!
# Binary floating point, by bit pattern

A binary interchange format is given by the widths of its two fields. A bit pattern is a natural
number; `BinaryFormat.unpack` says what it stands for, and `BinaryFormat.round` finds the pattern
nearest to an exact quotient, a tie going to the even neighbour. Sums, products and conversions are
all exact arithmetic on natural numbers followed by that one rounding.
-/

namespace TrafficControl

-- Powers of natural numbers are those of the core library, whatever else is in scope.
attribute [local instance (high)] instPowNat

/-- A binary interchange format: a sign bit, an exponent field and a fraction field. -/
structure BinaryFormat where
  fractionBits : Nat
  exponentBits : Nat

/-- What a bit pattern stands for; a finite one is `significand * 2 ^ exponent`. -/
inductive Datum where
  | notANumber
  | infinite (negative : Bool)
  | finite (negative : Bool) (significand : Nat) (exponent : Int)
  deriving DecidableEq, Repr

/-- The integer nearest to `num / den`, a tie going to the even neighbour. -/
def roundHalfEven (num den : Nat) : Nat :=
  let q := num / den
  let r := num % den
  if 2 * r < den then q else if den < 2 * r then q + 1 else q + q % 2

/-- The quotient `num / den` times `2 ^ e`, again as a quotient. -/
def scaleBinary (num den : Nat) (e : Int) : Nat × Nat :=
  if 0 ≤ e then (num * 2 ^ e.toNat, den) else (num, den * 2 ^ (-e).toNat)

/-- The quotient `num / den` times `10 ^ e`, again as a quotient. -/
def scaleDecimal (num den : Nat) (e : Int) : Nat × Nat :=
  if 0 ≤ e then (num * 10 ^ e.toNat, den) else (num, den * 10 ^ (-e).toNat)

namespace BinaryFormat

/-- The format of 32 bits. -/
def binary32 : BinaryFormat := ⟨23, 8⟩

/-- The format of 64 bits. -/
def binary64 : BinaryFormat := ⟨52, 11⟩

variable (f : BinaryFormat)

/-- The number of fractions, which is also the significand bit that a normal number leaves out. -/
def hidden : Nat := 2 ^ f.fractionBits

/-- The exponent field of infinities and of what is not a number. -/
def topExponent : Nat := 2 ^ f.exponentBits - 1

/-- The pattern of positive infinity. -/
def infinity : Nat := f.topExponent * f.hidden

/-- The pattern of negative zero, that is, the sign bit. -/
def signBit : Nat := 2 ^ (f.fractionBits + f.exponentBits)

/-- The fraction bit that makes what is not a number quiet. -/
def quietBit : Nat := 2 ^ (f.fractionBits - 1)

/-- The pattern that an operation without a result gives. -/
def indefinite : Nat := f.signBit + f.infinity + f.quietBit

/-- The exponent of the last place of the smallest numbers. -/
def leastExponent : Int := 2 - (2 ^ (f.exponentBits - 1) : Nat) - f.fractionBits

/-- The sign of a pattern. -/
def isNegative (bits : Nat) : Bool := bits / f.signBit % 2 == 1

/-- The number a pattern stands for. -/
def unpack (bits : Nat) : Datum :=
  let exponent := bits / f.hidden % 2 ^ f.exponentBits
  let fraction := bits % f.hidden
  if exponent = f.topExponent then
    if fraction = 0 then .infinite (f.isNegative bits) else .notANumber
  else if exponent = 0 then .finite (f.isNegative bits) fraction f.leastExponent
  else .finite (f.isNegative bits) (f.hidden + fraction) (f.leastExponent + exponent - 1)

/-- The pattern of a sign and a magnitude. -/
def withSign (negative : Bool) (magnitude : Nat) : Nat :=
  if negative then f.signBit + magnitude else magnitude

/-- The magnitude nearest to `num / den`. The exponent is the least at which the significand has no
bit too many; the pattern then counts the last places below it, so that a carry out of the rounding
moves to the next exponent by itself. -/
def nearest (num den : Nat) : Nat :=
  if num = 0 then 0
  else
    let guess : Int := (num.log2 : Int) - den.log2 - f.fractionBits - 1
    let e := max f.leastExponent guess
    let (n, d) := scaleBinary num den (-e)
    let (e, d) := if n / d < 2 * f.hidden then (e, d) else (e + 1, 2 * d)
    min ((e - f.leastExponent).toNat * f.hidden + roundHalfEven n d) f.infinity

/-- The pattern nearest to `num / den` with a sign. -/
def round (negative : Bool) (num den : Nat) : Nat :=
  f.withSign negative (f.nearest num den)

/-- The pattern nearest to `n * 2 ^ e` with a sign. -/
def roundBinary (negative : Bool) (n : Nat) (e : Int) : Nat :=
  let (num, den) := scaleBinary n 1 e
  f.round negative num den

/-- The pattern nearest to `digits * 10 ^ e` with a sign. Powers of ten lie between powers of eight
and sixteen, so a number far out of range is told from its digit count alone and its power of ten
is never built. -/
def roundDecimal (negative : Bool) (digits : Nat) (e : Int) : Nat :=
  if digits = 0 then f.withSign negative 0
  else
    let count : Int := (Nat.toDigits 10 digits).length
    if (2 ^ f.exponentBits : Nat) < 3 * (count - 1 + e) then f.withSign negative f.infinity
    else if 3 * (count + e) < f.leastExponent - 2 then f.withSign negative 0
    else
      let (num, den) := scaleDecimal digits 1 e
      f.round negative num den

/-- Makes what is not a number quiet. -/
def quieten (bits : Nat) : Nat :=
  if bits / f.quietBit % 2 = 1 then bits else bits + f.quietBit

/-- Whether two patterns compare equal: both zeros do, and what is not a number equals nothing. -/
def same (a b : Nat) : Bool :=
  match f.unpack a, f.unpack b with
  | .notANumber, _ => false
  | _, .notANumber => false
  | .finite _ 0 _, .finite _ 0 _ => true
  | _, _ => a == b

/-- The same pattern with the other sign. -/
def opposite (a : Nat) : Nat :=
  if f.isNegative a then a - f.signBit else a + f.signBit

/-- The sum. An operand that is not a number is the result, the first before the second; opposite
infinities have no sum; an exact zero is negative only if both operands are. -/
def add (a b : Nat) : Nat :=
  match f.unpack a, f.unpack b with
  | .notANumber, _ => f.quieten a
  | _, .notANumber => f.quieten b
  | .infinite s, .infinite t => if s = t then a else f.indefinite
  | .infinite _, _ => a
  | _, .infinite _ => b
  | .finite s m i, .finite t n j =>
    let e := min i j
    let x : Int := (if s then -1 else 1) * (m * 2 ^ (i - e).toNat : Nat)
    let y : Int := (if t then -1 else 1) * (n * 2 ^ (j - e).toNat : Nat)
    if x + y = 0 then f.withSign (s && t) 0
    else f.roundBinary (x + y < 0) (x + y).natAbs e

/-- The difference. What is not a number keeps its sign. -/
def sub (a b : Nat) : Nat :=
  match f.unpack b with
  | .notANumber => f.add a b
  | _ => f.add a (f.opposite b)

/-- The product. -/
def mul (a b : Nat) : Nat :=
  match f.unpack a, f.unpack b with
  | .notANumber, _ => f.quieten a
  | _, .notANumber => f.quieten b
  | .infinite s, .infinite t => f.withSign (s != t) f.infinity
  | .infinite s, .finite t n _ => if n = 0 then f.indefinite else f.withSign (s != t) f.infinity
  | .finite s m _, .infinite t => if m = 0 then f.indefinite else f.withSign (s != t) f.infinity
  | .finite s m i, .finite t n j => f.roundBinary (s != t) (m * n) (i + j)

/-- The quotient. -/
def div (a b : Nat) : Nat :=
  match f.unpack a, f.unpack b with
  | .notANumber, _ => f.quieten a
  | _, .notANumber => f.quieten b
  | .infinite _, .infinite _ => f.indefinite
  | .infinite s, .finite t _ _ => f.withSign (s != t) f.infinity
  | .finite s _ _, .infinite t => f.withSign (s != t) 0
  | .finite s m i, .finite t n j =>
    if n = 0 then if m = 0 then f.indefinite else f.withSign (s != t) f.infinity
    else
      let (num, den) := scaleBinary m n (i - j)
      f.round (s != t) num den

/-- The pattern of another format nearest to a pattern of this one; the high fraction bits of what
is not a number are kept, and it becomes quiet. -/
def convert (target : BinaryFormat) (a : Nat) : Nat :=
  match f.unpack a with
  | .notANumber =>
    let fraction := a % f.hidden * target.hidden / f.hidden
    target.withSign (f.isNegative a) (target.quieten (target.infinity + fraction))
  | .infinite s => target.withSign s target.infinity
  | .finite s m e => target.roundBinary s m e

end BinaryFormat

end TrafficControl
