import TrafficControl.Proofs.Bytes.Reads
import TrafficControl.Protocol.Codec

/-!
# Values are read back

A value that can be written is read back from its bytes, whatever follows them, however deep its
compounds nest. Reading recurses on a bound for the bytes left; an element of a compound takes fewer
bytes than the compound, so the bound that was enough for the whole is enough for each element.
-/

namespace TrafficControl

open Reader

/-! ### Parts -/

theorem Reader.reads_position (p : Position) : position.Reads p.emit p :=
  (reads_binary64 p.x).bind ((reads_binary64 p.y).bind_pure rfl)

theorem Reader.reads_lonLat (p : LonLat) : lonLat.Reads p.emit p :=
  (reads_binary64 p.lon).bind ((reads_binary64 p.lat).bind_pure rfl)

theorem Reader.reads_roadMap (p : RoadMapPosition) : roadMap.Reads p.emit p := by
  rw [RoadMapPosition.emit, Emission.append_assoc]
  exact (reads_text p.edge).bind ((reads_binary64 p.offset).bind ((reads_byte p.lane).bind_pure rfl))

theorem Reader.reads_boundingBox (b : BoundingBox) : boundingBox.Reads b.emit b :=
  (reads_position b.lowerLeft).bind ((reads_position b.upperRight).bind_pure rfl)

theorem Reader.reads_color (c : Color) : color.Reads c.emit c := by
  rw [Color.emit, Emission.append_assoc, Emission.append_assoc]
  exact (reads_byte c.red).bind ((reads_byte c.green).bind
    ((reads_byte c.blue).bind ((reads_byte c.alpha).bind_pure rfl)))

theorem Reader.reads_points (ps : List Position) : points.Reads (emitPolygon ps) ps := by
  unfold emitPolygon
  split
  · next hlen =>
    have htimes : (times position ps.length).Reads (.concat (ps.map Position.emit)) ps :=
      Reads.times fun p _ => reads_position p
    refine (reads_byte _).bind ?_
    rwa [UInt8.toNat_ofNat_of_lt' hlen]
  · exact fun hs => nomatch hs

theorem Reader.reads_valueType (t : ValueType) : valueType.Reads (.byte t.tag) t := by
  refine (reads_byte t.tag).bind_pure ?_
  rw [ValueType.ofTag?_eq_some_iff.mpr rfl]

/-! ### Values -/

namespace Value

/-- Writes the parts of a value, without its tag. -/
def emitParts : Value → Emission
  | .ubyte n => .byte n
  | .byte n => .int8 n
  | .int n => .int32 n
  | .float x => .binary32 x
  | .double x => .binary64 x
  | .text s => .text s
  | .textList items => .textList items
  | .compound items => .count items.length ++ emitAll items
  | .position p => p.emit
  | .lonLat p => p.emit
  | .roadMap p => p.emit
  | .boundingBox b => b.emit
  | .color c => c.emit
  | .polygon points => emitPolygon points

theorem emit_eq (v : Value) : v.emit = .byte v.type.tag ++ v.emitParts := by
  cases v with
  | compound items =>
    rw [emit, Emission.append_assoc]
    rfl
  | _ => rw [emit]; rfl

theorem emitAll_eq (vs : List Value) : emitAll vs = .concat (vs.map emit) := by
  induction vs with
  | nil => rw [emitAll]; rfl
  | cons v vs ih => rw [emitAll, ih]; rfl

theorem length_emit (v : Value) : v.emit.bytes.length = v.emitParts.bytes.length + 1 := by
  rw [emit_eq, Emission.append_bytes _ rfl]
  rfl

/-- The parts of a value are read back, if the elements of a compound are. -/
theorem reads_parts {element : Reader Value} (v : Value)
    (h : ∀ items, v = .compound items → ∀ x ∈ items, element.Reads x.emit x) :
    (readParts element v.type).Reads v.emitParts v := by
  cases v with
  | ubyte n => exact (reads_byte n).map _
  | byte n => exact (reads_int8 n).map _
  | int n => exact (reads_int32 n).map _
  | float x => exact (reads_binary32 x).map _
  | double x => exact (reads_binary64 x).map _
  | text s => exact (reads_text s).map _
  | textList items => exact (reads_textList items).map _
  | compound items =>
    have hitems : (times element items.length).Reads (emitAll items) items := by
      rw [emitAll_eq]
      exact Reads.times (h items rfl)
    exact (reads_count items.length).bind (hitems.map _)
  | position p => exact (reads_position p).map _
  | lonLat p => exact (reads_lonLat p).map _
  | roadMap p => exact (reads_roadMap p).map _
  | boundingBox b => exact (reads_boundingBox b).map _
  | color c => exact (reads_color c).map _
  | polygon points => exact (reads_points points).map _

/-- A value is read back by a reader that may go through at least the bytes of the value. -/
theorem reads_within (n : Nat) (v : Value) (hlen : v.emit.bytes.length ≤ n) :
    (readWithin n).Reads v.emit v := by
  induction n generalizing v with
  | zero =>
    rw [length_emit] at hlen
    exact absurd hlen (Nat.not_succ_le_zero _)
  | succ n ih =>
    refine .of_complete fun hs => ?_
    rw [length_emit] at hlen
    rw [emit_eq] at hs ⊢
    refine (reads_valueType v.type).bind (reads_parts v ?_)
    rintro items rfl x hx
    -- the count and the elements before and after `x` take up the rest of the bytes
    have hparts : (Emission.count items.length ++ emitAll items).stopped = none :=
      (Emission.append_stopped_eq_none.mp hs).2
    obtain ⟨hcount, hitems⟩ := Emission.append_stopped_eq_none.mp hparts
    rw [emitParts, Emission.append_bytes _ hcount, List.length_append] at hlen
    rw [emitAll_eq] at hitems hlen
    have hle := Emission.length_le_concat hitems (List.mem_map_of_mem hx)
    exact ih x (by omega)

/-- A value is read back from its bytes, whatever follows them. -/
theorem reads_read (v : Value) : read.Reads v.emit v := by
  intro hs rest pos
  rw [read, EStateM.bind_of_ok (x := MonadState.get) rfl]
  refine reads_within _ v ?_ hs rest pos
  rw [Cursor.remaining, List.length_append]
  exact Nat.le_add_right _ _

/-- A value of the kind asked for is read back. -/
theorem reads_readExpecting (v : Value) : (readExpecting v.type).Reads v.emit v := by
  intro hs rest pos
  have hparts := hs
  rw [emit_eq] at hparts ⊢
  obtain ⟨htag, hparts⟩ := Emission.append_stopped_eq_none.mp hparts
  rw [Emission.append_bytes _ htag, List.append_assoc, readExpecting,
    EStateM.bind_of_ok (reads_byte v.type.tag htag _ pos), if_pos rfl, EStateM.bind_of_ok (x := MonadState.get) rfl]
  rw [reads_parts v ?_ hparts]
  · rw [List.length_append, Nat.add_assoc]
  · rintro items rfl x hx
    refine reads_within _ x ?_
    obtain ⟨hcount, hitems⟩ := Emission.append_stopped_eq_none.mp hparts
    rw [Cursor.remaining, emitParts, Emission.append_bytes _ hcount, List.length_append,
      List.length_append]
    rw [emitAll_eq] at hitems ⊢
    have hle := Emission.length_le_concat hitems (List.mem_map_of_mem hx)
    omega

end Value

end TrafficControl
