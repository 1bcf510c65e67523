import TrafficControl.Bytes.Cursor
import TrafficControl.Bytes.Emission
import TrafficControl.Protocol.Value

/-!
# Values as bytes

A value is written as its tag and then its parts; `Value.read` takes a tag and what the tag
announces. The depth to which compounds nest is bounded by the bytes at hand, because every value
takes at least its tag, so reading is recursion on the number of bytes left.
-/

namespace TrafficControl

/-! ## Writing -/

def Position.emit (p : Position) : Emission := .binary64 p.x ++ .binary64 p.y

def LonLat.emit (p : LonLat) : Emission := .binary64 p.lon ++ .binary64 p.lat

def RoadMapPosition.emit (p : RoadMapPosition) : Emission :=
  .text p.edge ++ .binary64 p.offset ++ .byte p.lane

def BoundingBox.emit (b : BoundingBox) : Emission := b.lowerLeft.emit ++ b.upperRight.emit

def Color.emit (c : Color) : Emission :=
  .byte c.red ++ .byte c.green ++ .byte c.blue ++ .byte c.alpha

/-- Writes the points of a polygon behind their count, which is a single byte. -/
def emitPolygon (points : List Position) : Emission :=
  if points.length < UInt8.size then
    .byte (UInt8.ofNat points.length) ++ .concat (points.map Position.emit)
  else .stop (.polygonTooLarge points.length)

mutual

/-- Writes the tag of a value and its parts. -/
def Value.emit : Value → Emission
  | .ubyte n => .byte ValueType.ubyte.tag ++ .byte n
  | .byte n => .byte ValueType.byte.tag ++ .int8 n
  | .int n => .byte ValueType.int.tag ++ .int32 n
  | .float x => .byte ValueType.float.tag ++ .binary32 x
  | .double x => .byte ValueType.double.tag ++ .binary64 x
  | .text s => .byte ValueType.text.tag ++ .text s
  | .textList items => .byte ValueType.textList.tag ++ .textList items
  | .compound items =>
    .byte ValueType.compound.tag ++ .count items.length ++ Value.emitAll items
  | .position p => .byte ValueType.position.tag ++ p.emit
  | .lonLat p => .byte ValueType.lonLat.tag ++ p.emit
  | .roadMap p => .byte ValueType.roadMap.tag ++ p.emit
  | .boundingBox b => .byte ValueType.boundingBox.tag ++ b.emit
  | .color c => .byte ValueType.color.tag ++ c.emit
  | .polygon points => .byte ValueType.polygon.tag ++ emitPolygon points

/-- Writes values one after another. -/
def Value.emitAll : List Value → Emission
  | [] => {}
  | v :: vs => v.emit ++ Value.emitAll vs

end

/-- The bytes of a value, or what keeps it from being written. -/
def Value.encode (v : Value) : Except FrameError Bytes := v.emit.result

/-! ## Reading -/

namespace Reader

def position : Reader Position := do
  let x ← binary64
  let y ← binary64
  pure ⟨x, y⟩

def lonLat : Reader LonLat := do
  let lon ← binary64
  let lat ← binary64
  pure ⟨lon, lat⟩

def roadMap : Reader RoadMapPosition := do
  let edge ← text
  let offset ← binary64
  let lane ← byte
  pure ⟨edge, offset, lane⟩

def boundingBox : Reader BoundingBox := do
  let lowerLeft ← position
  let upperRight ← position
  pure ⟨lowerLeft, upperRight⟩

def color : Reader Color := do
  let red ← byte
  let green ← byte
  let blue ← byte
  let alpha ← byte
  pure ⟨red, green, blue, alpha⟩

/-- Takes a counted list of points. -/
def points : Reader (List Position) := do
  let n ← byte
  times position n.toNat

/-- Takes a tag. -/
def valueType : Reader ValueType := do
  let tag ← byte
  match ValueType.ofTag? tag with
  | some t => pure t
  | none => throw (.unknownType tag)

end Reader

namespace Value

/-- Takes the parts of a value of a given kind, its elements by `element` if it is a compound. -/
def readParts (element : Reader Value) : ValueType → Reader Value
  | .ubyte => .ubyte <$> Reader.byte
  | .byte => .byte <$> Reader.int8
  | .int => .int <$> Reader.int32
  | .float => .float <$> Reader.binary32
  | .double => .double <$> Reader.binary64
  | .text => .text <$> Reader.text
  | .textList => .textList <$> Reader.textList
  | .compound => do
    let n ← Reader.count
    .compound <$> Reader.times element n
  | .position => .position <$> Reader.position
  | .lonLat => .lonLat <$> Reader.lonLat
  | .roadMap => .roadMap <$> Reader.roadMap
  | .boundingBox => .boundingBox <$> Reader.boundingBox
  | .color => .color <$> Reader.color
  | .polygon => .polygon <$> Reader.points

/-- Takes a value when at most `bytes` bytes are left. Without a byte left there is no tag. -/
def readWithin : Nat → Reader Value
  | 0 => throw (.underflow 1 0)
  | bytes + 1 => do
    let t ← Reader.valueType
    readParts (readWithin bytes) t

/-- Takes a tag and the value it announces. -/
def read : Reader Value := do
  let c ← get
  readWithin c.remaining

/-- Takes a value of the kind asked for. Another tag is refused before its parts are looked at. -/
def readExpecting (expected : ValueType) : Reader Value := do
  let tag ← Reader.byte
  if tag = expected.tag then
    let c ← get
    readParts (readWithin c.remaining) expected
  else throw (.unexpectedType expected.tag tag)

end Value

end TrafficControl
