import TrafficControl.Json.Number
import TrafficControl.Number.Text
import TrafficControl.Protocol.Value

/-!
# Values as JSON

A value is an object with one field, named for its kind. Positions, boxes and colours are objects
with their parts as fields; they are read from arrays too. Objects and arrays nest at most 127 deep.
-/

namespace TrafficControl

open Json (Tree)

/-! ## Writing -/

/-- An object of fields that are already written. -/
def jsonObject (fields : List (String × String)) : String :=
  "\x7b" ++ String.intercalate "," (fields.map fun (name, text) => Json.quote name ++ ":" ++ text)
    ++ "\x7d"

/-- An array of items that are already written. -/
def jsonArray (items : List String) : String :=
  "[" ++ String.intercalate "," items ++ "]"

def Position.json (p : Position) : String :=
  jsonObject [("x", p.x.jsonText), ("y", p.y.jsonText)]

def LonLat.json (p : LonLat) : String :=
  jsonObject [("lon", p.lon.jsonText), ("lat", p.lat.jsonText)]

def RoadMapPosition.json (p : RoadMapPosition) : String :=
  jsonObject [("edge_id", Json.quote p.edge), ("pos", p.offset.jsonText),
    ("lane_index", toString p.lane.toNat)]

def BoundingBox.json (b : BoundingBox) : String :=
  jsonObject [("lower_left", b.lowerLeft.json), ("upper_right", b.upperRight.json)]

def Color.json (c : Color) : String :=
  jsonObject [("r", toString c.red.toNat), ("g", toString c.green.toNat),
    ("b", toString c.blue.toNat), ("a", toString c.alpha.toNat)]

mutual

/-- A value as JSON. -/
def Value.json : Value → String
  | .ubyte n => jsonObject [(ValueType.ubyte.name, toString n.toNat)]
  | .byte n => jsonObject [(ValueType.byte.name, toString n.toInt)]
  | .int n => jsonObject [(ValueType.int.name, toString n.toInt)]
  | .float x => jsonObject [(ValueType.float.name, x.jsonText)]
  | .double x => jsonObject [(ValueType.double.name, x.jsonText)]
  | .text s => jsonObject [(ValueType.text.name, Json.quote s)]
  | .textList items => jsonObject [(ValueType.textList.name, jsonArray (items.map Json.quote))]
  | .compound items => jsonObject [(ValueType.compound.name, jsonArray (Value.jsonAll items))]
  | .position p => jsonObject [(ValueType.position.name, p.json)]
  | .lonLat p => jsonObject [(ValueType.lonLat.name, p.json)]
  | .roadMap p => jsonObject [(ValueType.roadMap.name, p.json)]
  | .boundingBox b => jsonObject [(ValueType.boundingBox.name, b.json)]
  | .color c => jsonObject [(ValueType.color.name, c.json)]
  | .polygon points =>
    jsonObject [(ValueType.polygon.name, jsonObject [("points", jsonArray (points.map Position.json))])]

/-- Values as JSON, one text each. -/
def Value.jsonAll : List Value → List String
  | [] => []
  | v :: vs => v.json :: Value.jsonAll vs

end

/-! ## Reading

`depth` is the number of objects and arrays that may still be entered. -/

/-- The fields of a record, all of which must be there. -/
def fieldsOf? (names : List String) (depth : Nat) (t : Tree) : Option (List Tree) := do
  if depth = 0 then none
  let fields ← t.record? names
  fields.mapM id

/-- The items of an array. -/
def itemsOf? (depth : Nat) : Tree → Option (List Tree)
  | .array items => if depth = 0 then none else some items
  | _ => none

def byteOf? (t : Tree) : Option UInt8 := (UInt8.ofNat ∘ Int.toNat) <$> t.integer? 0 255

def Position.ofJson? (depth : Nat) (t : Tree) : Option Position := do
  let [x, y] ← fieldsOf? ["x", "y"] depth t | none
  pure ⟨← x.binary64?, ← y.binary64?⟩

def LonLat.ofJson? (depth : Nat) (t : Tree) : Option LonLat := do
  let [lon, lat] ← fieldsOf? ["lon", "lat"] depth t | none
  pure ⟨← lon.binary64?, ← lat.binary64?⟩

def RoadMapPosition.ofJson? (depth : Nat) (t : Tree) : Option RoadMapPosition := do
  let [edge, offset, lane] ← fieldsOf? ["edge_id", "pos", "lane_index"] depth t | none
  pure ⟨← edge.text?, ← offset.binary64?, ← byteOf? lane⟩

def BoundingBox.ofJson? (depth : Nat) (t : Tree) : Option BoundingBox := do
  let [lowerLeft, upperRight] ← fieldsOf? ["lower_left", "upper_right"] depth t | none
  pure ⟨← Position.ofJson? (depth - 1) lowerLeft, ← Position.ofJson? (depth - 1) upperRight⟩

def Color.ofJson? (depth : Nat) (t : Tree) : Option Color := do
  let [r, g, b, a] ← fieldsOf? ["r", "g", "b", "a"] depth t | none
  pure ⟨← byteOf? r, ← byteOf? g, ← byteOf? b, ← byteOf? a⟩

def polygonOfJson? (depth : Nat) (t : Tree) : Option (List Position) := do
  let [points] ← fieldsOf? ["points"] depth t | none
  let points ← itemsOf? (depth - 1) points
  points.mapM (Position.ofJson? (depth - 2))

/-- The value that a tree stands for. -/
def Value.ofTree? : Nat → Tree → Option Value
  | 0, _ => none
  | depth + 1, .object [(key, t)] => do
    match ← ValueType.ofName? (← Json.text? key) with
    | .ubyte => .ubyte <$> byteOf? t
    | .byte => (.byte ∘ Int8.ofInt) <$> t.integer? (-128) 127
    | .int => (.int ∘ Int32.ofInt) <$> t.integer? (-2147483648) 2147483647
    | .float => .float <$> t.binary32?
    | .double => .double <$> t.binary64?
    | .text => .text <$> t.text?
    | .textList => do
      let items ← itemsOf? depth t
      .textList <$> items.mapM Tree.text?
    | .compound =>
      match depth with
      | 0 => none
      | depth + 1 => do
        let items ← itemsOf? (depth + 1) t
        .compound <$> items.mapM (Value.ofTree? depth)
    | .position => .position <$> Position.ofJson? depth t
    | .lonLat => .lonLat <$> LonLat.ofJson? depth t
    | .roadMap => .roadMap <$> RoadMapPosition.ofJson? depth t
    | .boundingBox => .boundingBox <$> BoundingBox.ofJson? depth t
    | .color => .color <$> Color.ofJson? depth t
    | .polygon => .polygon <$> polygonOfJson? depth t
  | _, _ => none

/-- How deep objects and arrays may nest. -/
def jsonDepth : Nat := 127

/-- The value that a text stands for. -/
def Value.ofJson? (s : String) : Option Value := do
  let t ← Json.parse? s
  Value.ofTree? jsonDepth t

end TrafficControl
