import TrafficControl.Client.Error

/-!
# Reading values as what they stand for

Each type that a value can be read as accepts one kind of value; a number accepts both widths.
-/

namespace TrafficControl

/-- A type that values are read as. -/
class Readable (α : Type) where
  target : Target
  ofValue? : Value → Option α

/-- Reads a value, or names what it is instead. -/
def Readable.ofValue {α : Type} [Readable α] (v : Value) : Except ClientError α :=
  match Readable.ofValue? v with
  | some a => .ok a
  | none => .error (.valueConversion (Readable.target α) v.type)

instance : Readable UInt8 where
  target := .ubyte
  ofValue? | .ubyte n => some n | _ => none

instance : Readable Int8 where
  target := .byte
  ofValue? | .byte n => some n | _ => none

instance : Readable Int32 where
  target := .int
  ofValue? | .int n => some n | _ => none

instance : Readable Binary64 where
  target := .number
  ofValue? | .double x => some x | .float x => some x.widen | _ => none

instance : Readable String where
  target := .text
  ofValue? | .text s => some s | _ => none

instance : Readable (List String) where
  target := .textList
  ofValue? | .textList items => some items | _ => none

instance : Readable (List Value) where
  target := .items
  ofValue? | .compound items => some items | _ => none

instance : Readable Position where
  target := .position
  ofValue? | .position p => some p | _ => none

instance : Readable LonLat where
  target := .lonLat
  ofValue? | .lonLat p => some p | _ => none

instance : Readable RoadMapPosition where
  target := .roadMap
  ofValue? | .roadMap p => some p | _ => none

instance : Readable BoundingBox where
  target := .boundingBox
  ofValue? | .boundingBox b => some b | _ => none

instance : Readable Color where
  target := .color
  ofValue? | .color c => some c | _ => none

instance : Readable (List Position) where
  target := .polygon
  ofValue? | .polygon points => some points | _ => none

instance : Readable Value where
  target := .any
  ofValue? v := some v

end TrafficControl
