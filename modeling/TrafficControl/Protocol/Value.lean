import TrafficControl.Bytes.Word
import TrafficControl.Number.Binary

/-!
# Typed values

The kinds of value that travel with a tag byte, and the values themselves. A compound holds values
of any kind, compounds included. `Value.same` compares as numbers compare, so that both zeros are
one value and what is not a number differs from itself.
-/

namespace TrafficControl

/-- The kinds of value. -/
inductive ValueType where
  | lonLat
  | position
  | roadMap
  | boundingBox
  | polygon
  | ubyte
  | byte
  | int
  | float
  | double
  | text
  | textList
  | compound
  | color
  deriving DecidableEq, Repr, Inhabited

namespace ValueType

/-- The byte that announces a kind of value. -/
def tag : ValueType → UInt8
  | lonLat => 0x00
  | position => 0x01
  | roadMap => 0x04
  | boundingBox => 0x05
  | polygon => 0x06
  | ubyte => 0x07
  | byte => 0x08
  | int => 0x09
  | float => 0x0a
  | double => 0x0b
  | text => 0x0c
  | textList => 0x0e
  | compound => 0x0f
  | color => 0x11

/-- The kind that a byte announces. -/
def ofTag? : UInt8 → Option ValueType
  | 0x00 => some lonLat
  | 0x01 => some position
  | 0x04 => some roadMap
  | 0x05 => some boundingBox
  | 0x06 => some polygon
  | 0x07 => some ubyte
  | 0x08 => some byte
  | 0x09 => some int
  | 0x0a => some float
  | 0x0b => some double
  | 0x0c => some text
  | 0x0e => some textList
  | 0x0f => some compound
  | 0x11 => some color
  | _ => none

/-- The name of a kind, in messages and in JSON. -/
def name : ValueType → String
  | lonLat => "LonLat"
  | position => "Position2D"
  | roadMap => "RoadMap"
  | boundingBox => "BoundingBox"
  | polygon => "Polygon"
  | ubyte => "UByte"
  | byte => "Byte"
  | int => "Int"
  | float => "Float"
  | double => "Double"
  | text => "String"
  | textList => "StringList"
  | compound => "Compound"
  | color => "Color"

/-- Every kind of value. -/
def all : List ValueType :=
  [lonLat, position, roadMap, boundingBox, polygon, ubyte, byte, int, float, double, text, textList,
    compound, color]

/-- The kind with a name. -/
def ofName? (s : String) : Option ValueType :=
  all.find? fun t => t.name == s

/-- A byte announces a kind exactly when it is that kind's tag. -/
theorem ofTag?_eq_some_iff {b : UInt8} {t : ValueType} : ofTag? b = some t ↔ t.tag = b := by
  constructor
  · intro h
    unfold ofTag? at h
    split at h <;> cases h <;> rfl
  · rintro rfl
    cases t <;> rfl

end ValueType

/-- A point of the plane. -/
structure Position where
  x : Binary64
  y : Binary64
  deriving DecidableEq, Repr, Inhabited

/-- A point of the globe. -/
structure LonLat where
  lon : Binary64
  lat : Binary64
  deriving DecidableEq, Repr, Inhabited

/-- A place on the road network: an offset along a lane of an edge. -/
structure RoadMapPosition where
  edge : String
  offset : Binary64
  lane : UInt8
  deriving DecidableEq, Repr, Inhabited

/-- An upright rectangle. -/
structure BoundingBox where
  lowerLeft : Position
  upperRight : Position
  deriving DecidableEq, Repr, Inhabited

def BoundingBox.width (b : BoundingBox) : Binary64 := b.upperRight.x - b.lowerLeft.x

def BoundingBox.height (b : BoundingBox) : Binary64 := b.upperRight.y - b.lowerLeft.y

/-- A colour with its opacity. -/
structure Color where
  red : UInt8
  green : UInt8
  blue : UInt8
  alpha : UInt8
  deriving DecidableEq, Repr, Inhabited

/-- A typed value. -/
inductive Value where
  | ubyte (n : UInt8)
  | byte (n : Int8)
  | int (n : Int32)
  | float (x : Binary32)
  | double (x : Binary64)
  | text (s : String)
  | textList (items : List String)
  | compound (items : List Value)
  | position (p : Position)
  | lonLat (p : LonLat)
  | roadMap (p : RoadMapPosition)
  | boundingBox (b : BoundingBox)
  | color (c : Color)
  | polygon (points : List Position)
  deriving Repr, Inhabited

/-- The kind of a value. -/
def Value.type : Value → ValueType
  | .ubyte _ => .ubyte
  | .byte _ => .byte
  | .int _ => .int
  | .float _ => .float
  | .double _ => .double
  | .text _ => .text
  | .textList _ => .textList
  | .compound _ => .compound
  | .position _ => .position
  | .lonLat _ => .lonLat
  | .roadMap _ => .roadMap
  | .boundingBox _ => .boundingBox
  | .color _ => .color
  | .polygon _ => .polygon

/-! ## Comparison -/

def Position.same (p q : Position) : Bool := p.x.same q.x && p.y.same q.y

def LonLat.same (p q : LonLat) : Bool := p.lon.same q.lon && p.lat.same q.lat

def RoadMapPosition.same (p q : RoadMapPosition) : Bool :=
  p.edge == q.edge && p.offset.same q.offset && p.lane == q.lane

def BoundingBox.same (b c : BoundingBox) : Bool :=
  b.lowerLeft.same c.lowerLeft && b.upperRight.same c.upperRight

/-- Whether two point lists have the same points in order. -/
def samePoints : List Position → List Position → Bool
  | [], [] => true
  | p :: ps, q :: qs => p.same q && samePoints ps qs
  | _, _ => false

mutual

/-- Whether two values compare equal. -/
def Value.same : Value → Value → Bool
  | .ubyte m, .ubyte n => m == n
  | .byte m, .byte n => m == n
  | .int m, .int n => m == n
  | .float x, .float y => x.same y
  | .double x, .double y => x.same y
  | .text s, .text t => s == t
  | .textList s, .textList t => s == t
  | .compound as, .compound bs => Value.sameAll as bs
  | .position p, .position q => p.same q
  | .lonLat p, .lonLat q => p.same q
  | .roadMap p, .roadMap q => p.same q
  | .boundingBox b, .boundingBox c => b.same c
  | .color c, .color d => c == d
  | .polygon ps, .polygon qs => samePoints ps qs
  | _, _ => false

/-- Whether two lists of values compare equal, element by element. -/
def Value.sameAll : List Value → List Value → Bool
  | [], [] => true
  | a :: as, b :: bs => Value.same a b && Value.sameAll as bs
  | _, _ => false

end

end TrafficControl
