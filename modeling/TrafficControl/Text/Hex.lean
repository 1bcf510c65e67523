/-!
# Bytes in messages

Messages name a byte by its two lower-case hexadecimal digits.
-/

namespace TrafficControl

/-- The hexadecimal digit of a number below sixteen. -/
def hexDigit (n : Nat) : Char :=
  (Nat.toDigits 16 n).headD '0'

/-- A byte as two hexadecimal digits. -/
def hexByte (b : UInt8) : String :=
  String.ofList [hexDigit (b.toNat / 16), hexDigit (b.toNat % 16)]

/-- A byte as messages name it. -/
def hexName (b : UInt8) : String :=
  "0x" ++ hexByte b

end TrafficControl
