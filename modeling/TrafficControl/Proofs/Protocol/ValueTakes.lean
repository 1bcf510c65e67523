import TrafficControl.Proofs.Bytes.Takes
import TrafficControl.Proofs.Protocol.ValueReads

/-!
# Values are spelled in one way

A reader of values that succeeds has passed over just the bytes in which its result is written, at
whatever depth: what was read could not have been spelled otherwise. A reader that asks for a kind of
value gives a value of that kind. So values and the byte strings that are read as values are in
bijection (`Value.read_eq_ok_iff_encode`).
-/

namespace TrafficControl

open Reader

/-! ### Parts -/

theorem Reader.takes_position : position.Takes Position.emit := by
  intro c c' p h
  obtain ⟨x, c₁, hx, h⟩ := EStateM.bind_eq_ok_iff.mp h
  obtain ⟨y, c₂, hy, h⟩ := EStateM.bind_eq_ok_iff.mp h
  cases h
  exact (takes_binary64 hx).append (takes_binary64 hy)

theorem Reader.takes_lonLat : lonLat.Takes LonLat.emit := by
  intro c c' p h
  obtain ⟨lon, c₁, hlon, h⟩ := EStateM.bind_eq_ok_iff.mp h
  obtain ⟨lat, c₂, hlat, h⟩ := EStateM.bind_eq_ok_iff.mp h
  cases h
  exact (takes_binary64 hlon).append (takes_binary64 hlat)

theorem Reader.takes_roadMap : roadMap.Takes RoadMapPosition.emit := by
  intro c c' p h
  obtain ⟨edge, c₁, hedge, h⟩ := EStateM.bind_eq_ok_iff.mp h
  obtain ⟨offset, c₂, hoffset, h⟩ := EStateM.bind_eq_ok_iff.mp h
  obtain ⟨lane, c₃, hlane, h⟩ := EStateM.bind_eq_ok_iff.mp h
  cases h
  exact ((takes_text hedge).append (takes_binary64 hoffset)).append (takes_byte hlane)

theorem Reader.takes_boundingBox : boundingBox.Takes BoundingBox.emit := by
  intro c c' b h
  obtain ⟨lowerLeft, c₁, hlower, h⟩ := EStateM.bind_eq_ok_iff.mp h
  obtain ⟨upperRight, c₂, hupper, h⟩ := EStateM.bind_eq_ok_iff.mp h
  cases h
  exact (takes_position hlower).append (takes_position hupper)

theorem Reader.takes_color : color.Takes Color.emit := by
  intro c c' x h
  obtain ⟨red, c₁, hred, h⟩ := EStateM.bind_eq_ok_iff.mp h
  obtain ⟨green, c₂, hgreen, h⟩ := EStateM.bind_eq_ok_iff.mp h
  obtain ⟨blue, c₃, hblue, h⟩ := EStateM.bind_eq_ok_iff.mp h
  obtain ⟨alpha, c₄, halpha, h⟩ := EStateM.bind_eq_ok_iff.mp h
  cases h
  exact (((takes_byte hred).append (takes_byte hgreen)).append (takes_byte hblue)).append
    (takes_byte halpha)

theorem Reader.takes_points : points.Takes emitPolygon := by
  intro c c' ps h
  obtain ⟨n, c₁, hn, h⟩ := EStateM.bind_eq_ok_iff.mp h
  obtain ⟨hlen, hps⟩ := takes_position.times h
  have hfits : ps.length < UInt8.size := by
    rw [hlen]
    exact n.toNat_lt
  rw [emitPolygon, if_pos hfits, hlen, UInt8.ofNat_toNat]
  exact (takes_byte hn).append hps

/-- A tag that was read is that of the kind it gave. -/
theorem Reader.takes_valueType : valueType.Takes fun t => .byte t.tag := by
  intro c c' t h
  obtain ⟨tag, c₁, htag, h⟩ := EStateM.bind_eq_ok_iff.mp h
  rcases hof : ValueType.ofTag? tag with _ | t'
  · rw [hof] at h
    cases h
  · rw [hof] at h
    cases h
    have hpass := takes_byte htag
    rwa [← ValueType.ofTag?_eq_some_iff.mp hof] at hpass

/-! ### Values -/

namespace Value

/-- Parts that one reader takes make a value of one kind. -/
theorem takes_made {α : Type} {r : Reader α} {write : α → Emission} (make : α → Value) {t : ValueType}
    (hr : r.Takes write) (htype : ∀ a, (make a).type = t) (hparts : ∀ a, (make a).emitParts = write a)
    {c c' : Cursor} {v : Value} (h : (make <$> r) c = .ok v c') :
    v.type = t ∧ c.Passes v.emitParts c' := by
  obtain ⟨a, ha, rfl⟩ := EStateM.map_eq_ok_iff.mp h
  rw [hparts]
  exact ⟨htype a, hr ha⟩

/-- The parts of a kind make a value of that kind, if the elements of a compound are values. -/
theorem takes_parts {element : Reader Value} (helement : element.Takes emit) {t : ValueType}
    {c c' : Cursor} {v : Value} (h : readParts element t c = .ok v c') :
    v.type = t ∧ c.Passes v.emitParts c' := by
  cases t with
  | compound =>
    obtain ⟨n, c₁, hn, h⟩ := EStateM.bind_eq_ok_iff.mp h
    obtain ⟨items, hitems, rfl⟩ := EStateM.map_eq_ok_iff.mp h
    obtain ⟨rfl, hall⟩ := helement.times hitems
    refine ⟨rfl, ?_⟩
    rw [emitParts, emitAll_eq]
    exact (takes_count hn).append hall
  | ubyte => exact takes_made .ubyte takes_byte (fun _ => rfl) (fun _ => rfl) h
  | byte => exact takes_made .byte takes_int8 (fun _ => rfl) (fun _ => rfl) h
  | int => exact takes_made .int takes_int32 (fun _ => rfl) (fun _ => rfl) h
  | float => exact takes_made .float takes_binary32 (fun _ => rfl) (fun _ => rfl) h
  | double => exact takes_made .double takes_binary64 (fun _ => rfl) (fun _ => rfl) h
  | text => exact takes_made .text takes_text (fun _ => rfl) (fun _ => rfl) h
  | textList => exact takes_made .textList takes_textList (fun _ => rfl) (fun _ => rfl) h
  | position => exact takes_made .position takes_position (fun _ => rfl) (fun _ => rfl) h
  | lonLat => exact takes_made .lonLat takes_lonLat (fun _ => rfl) (fun _ => rfl) h
  | roadMap => exact takes_made .roadMap takes_roadMap (fun _ => rfl) (fun _ => rfl) h
  | boundingBox => exact takes_made .boundingBox takes_boundingBox (fun _ => rfl) (fun _ => rfl) h
  | color => exact takes_made .color takes_color (fun _ => rfl) (fun _ => rfl) h
  | polygon => exact takes_made .polygon takes_points (fun _ => rfl) (fun _ => rfl) h

theorem takes_within (n : Nat) : (readWithin n).Takes emit := by
  induction n with
  | zero =>
    intro c c' v h
    cases h
  | succ n ih =>
    intro c c' v h
    obtain ⟨t, c₁, ht, h⟩ := EStateM.bind_eq_ok_iff.mp h
    obtain ⟨rfl, hparts⟩ := takes_parts ih h
    rw [emit_eq]
    exact (takes_valueType ht).append hparts

/-- What is read as a value is the writing of that value. -/
theorem takes_read : read.Takes emit := by
  intro c c' v h
  obtain ⟨c₀, c₁, hc, h⟩ := EStateM.bind_eq_ok_iff.mp h
  cases hc
  exact takes_within _ h

/-- What is read as a value of a kind is the writing of a value of that kind. -/
theorem takes_readExpecting {t : ValueType} {c c' : Cursor} {v : Value}
    (h : readExpecting t c = .ok v c') : v.type = t ∧ c.Passes v.emit c' := by
  obtain ⟨tag, c₁, htag, h⟩ := EStateM.bind_eq_ok_iff.mp h
  split at h
  · next heq =>
    obtain ⟨c₀, c₂, hc, h⟩ := EStateM.bind_eq_ok_iff.mp h
    cases hc
    obtain ⟨rfl, hparts⟩ := takes_parts (takes_within _) h
    have htype := takes_byte htag
    rw [heq] at htype
    refine ⟨rfl, ?_⟩
    rw [emit_eq]
    exact htype.append hparts
  · cases h

/-- A value is read exactly where its bytes stand, and just these bytes are taken: whatever follows
the bytes of a value, the value is read and the rest is left, and what is read as a value is written in
the bytes that were taken. -/
theorem read_eq_ok_iff_encode (v : Value) (c c' : Cursor) :
    read c = .ok v c' ↔ ∃ bytes, v.encode = .ok bytes ∧ c.rest = bytes ++ c'.rest ∧
      c'.pos = c.pos + bytes.length := by
  constructor
  · intro h
    have hpass := takes_read h
    exact ⟨v.emit.bytes, Emission.result_eq_ok_iff.mpr ⟨hpass.complete, rfl⟩, hpass.rest_eq,
      hpass.pos_eq⟩
  · rintro ⟨bytes, hencode, hrest, hpos⟩
    obtain ⟨hcomplete, rfl⟩ := Emission.result_eq_ok_iff.mp hencode
    obtain ⟨rest, pos⟩ := c
    obtain ⟨rest', pos'⟩ := c'
    simp only at hrest hpos
    rw [hrest, hpos]
    exact reads_read v hcomplete rest' pos

end Value

end TrafficControl
