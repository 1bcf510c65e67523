import TrafficControl.Number.Format

/-!
# Numbers of 32 and 64 bits

`Binary32` and `Binary64` hold the bit pattern itself, so that a number read from the wire is
written back with the same bits, whatever it stands for. Two of them are equal as values when their
patterns are; `same` is the comparison that takes both zeros for one number.
-/

namespace TrafficControl

/-- A floating-point number of 64 bits. -/
structure Binary64 where
  bits : UInt64
  deriving DecidableEq, Repr, Inhabited

/-- A floating-point number of 32 bits. -/
structure Binary32 where
  bits : UInt32
  deriving DecidableEq, Repr, Inhabited

namespace Binary32

def datum (x : Binary32) : Datum := BinaryFormat.binary32.unpack x.bits.toNat

/-- Whether two numbers compare equal. -/
def same (x y : Binary32) : Bool := BinaryFormat.binary32.same x.bits.toNat y.bits.toNat

/-- The number with a given pattern. -/
def ofNatBits (n : Nat) : Binary32 := ⟨UInt32.ofNat n⟩

/-- The nearest number to an integer. -/
def ofInt (n : Int) : Binary32 := ofNatBits (BinaryFormat.binary32.round (n < 0) n.natAbs 1)

/-- The same number in the wider format. -/
def widen (x : Binary32) : Binary64 :=
  ⟨UInt64.ofNat (BinaryFormat.binary32.convert .binary64 x.bits.toNat)⟩

end Binary32

namespace Binary64

def datum (x : Binary64) : Datum := BinaryFormat.binary64.unpack x.bits.toNat

/-- Whether two numbers compare equal. -/
def same (x y : Binary64) : Bool := BinaryFormat.binary64.same x.bits.toNat y.bits.toNat

/-- The number with a given pattern. -/
def ofNatBits (n : Nat) : Binary64 := ⟨UInt64.ofNat n⟩

/-- Positive zero. -/
def zero : Binary64 := ⟨0⟩

/-- The nearest number to an integer. -/
def ofInt (n : Int) : Binary64 := ofNatBits (BinaryFormat.binary64.round (n < 0) n.natAbs 1)

/-- The nearest number to `digits * 10 ^ e` with a sign. -/
def ofDecimal (negative : Bool) (digits : Nat) (e : Int) : Binary64 :=
  ofNatBits (BinaryFormat.binary64.roundDecimal negative digits e)

instance : Add Binary64 := ⟨fun x y => ofNatBits (BinaryFormat.binary64.add x.bits.toNat y.bits.toNat)⟩
instance : Sub Binary64 := ⟨fun x y => ofNatBits (BinaryFormat.binary64.sub x.bits.toNat y.bits.toNat)⟩
instance : Mul Binary64 := ⟨fun x y => ofNatBits (BinaryFormat.binary64.mul x.bits.toNat y.bits.toNat)⟩
instance : Div Binary64 := ⟨fun x y => ofNatBits (BinaryFormat.binary64.div x.bits.toNat y.bits.toNat)⟩
instance : Neg Binary64 := ⟨fun x => ofNatBits (BinaryFormat.binary64.opposite x.bits.toNat)⟩

/-- Whether a number is neither infinite nor not a number. -/
def isFinite (x : Binary64) : Bool :=
  match x.datum with
  | .finite .. => true
  | _ => false

/-- The nearest number of the narrower format. -/
def narrow (x : Binary64) : Binary32 :=
  ⟨UInt32.ofNat (BinaryFormat.binary64.convert .binary32 x.bits.toNat)⟩

end Binary64

end TrafficControl
