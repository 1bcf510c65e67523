import TrafficControl.Text.Hex

/-!
# What is wrong with a frame

The ways in which bytes fail to be a message, or a message fails to be written as bytes.
-/

namespace TrafficControl

/-- A failure of framing, decoding or encoding. -/
inductive FrameError where
  /-- Fewer bytes are left than a primitive needs. -/
  | underflow (needed remaining : Nat)
  /-- A length field declares less than its own header. -/
  | malformedLength (length : Nat)
  /-- A message declares another length than it has. -/
  | lengthMismatch (declared actual : Nat)
  /-- A value carries another tag than the one asked for. -/
  | unexpectedType (expected actual : UInt8)
  /-- A tag belongs to no kind of value. -/
  | unknownType (tag : UInt8)
  /-- The bytes of a text are not UTF-8. -/
  | invalidText
  /-- A count of elements is negative. -/
  | negativeCount (count : Int32)
  /-- A polygon has more points than its count can say. -/
  | polygonTooLarge (points : Nat)
  /-- A length or count does not fit its field. -/
  | frameTooLarge (size : Nat)
  deriving DecidableEq, Repr

/-- The wording of a framing failure. -/
def FrameError.message : FrameError → String
  | .underflow needed remaining =>
    "buffer underflow: needed " ++ toString needed ++ " bytes, " ++ toString remaining ++ " remaining"
  | .malformedLength length => "malformed command length " ++ toString length
  | .lengthMismatch declared actual =>
    "message declares " ++ toString declared ++ " bytes but " ++ toString actual ++ " were received"
  | .unexpectedType expected actual =>
    "unexpected value type: expected " ++ hexName expected ++ ", got " ++ hexName actual
  | .unknownType tag => "unknown value type tag " ++ hexName tag
  | .invalidText => "string is not valid UTF-8"
  | .negativeCount count => "negative element count " ++ toString count.toInt
  | .polygonTooLarge points =>
    "polygon with " ++ toString points ++ " points exceeds the 255 point limit"
  | .frameTooLarge size => toString size ++ " bytes do not fit in a single frame"

end TrafficControl
