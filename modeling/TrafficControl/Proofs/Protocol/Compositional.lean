import TrafficControl.Proofs.Sequencing
import TrafficControl.Protocol.Codec
import TrafficControl.Protocol.Command

/-!
# What all readers are built from

Readers take bytes, give results and fail, and are put one after another; they see the bytes only in
these ways. So whatever two readers have to do with each other, if taking bytes, giving results, failing
and sequencing respect it, every reader has to do with itself. `Reader.Compositional R` says that they
respect `R`, and there is one lemma for each reader that follows. A property of single readers is a
relation that looks at one of the two only.

The reader of values is given a bound on the bytes left. It is related to the one with a larger bound if
no more is asked where not even a tag is left (`Compositional.readWithin`).
-/

namespace TrafficControl

/-- The failure is about bytes that were taken, and not about how many there are. -/
def FrameError.OfContent : FrameError → Prop
  | .malformedLength _ | .unexpectedType _ _ | .unknownType _ | .invalidText | .negativeCount _ => True
  | .underflow _ _ | .lengthMismatch _ _ | .polygonTooLarge _ | .frameTooLarge _ => False

theorem FrameError.OfContent.ne_underflow {e : FrameError} (h : e.OfContent) (needed remaining : Nat) :
    e ≠ .underflow needed remaining := by
  rintro rfl
  exact h

/-- A relation of readers that is respected by everything they are built from. -/
structure Reader.Compositional (R : (α : Type) → Reader α → Reader α → Prop) : Prop where
  pure {α : Type} (a : α) : R α (Pure.pure a) (Pure.pure a)
  /-- What a reader itself reports. Bytes that are lacking are found where they are taken, and a length
  that does not agree is found elsewhere. -/
  throw {α : Type} {e : FrameError} (h : e.OfContent) :
    R α (MonadExcept.throw e) (MonadExcept.throw e)
  bind {α β : Type} {r r' : Reader α} {f f' : α → Reader β} (hr : R α r r')
    (hf : ∀ a, R β (f a) (f' a)) : R β (r >>= f) (r' >>= f')
  take (n : Nat) : R Bytes (Reader.take n) (Reader.take n)
  byte : R UInt8 Reader.byte Reader.byte

namespace Reader.Compositional

variable {R : (α : Type) → Reader α → Reader α → Prop} {α β : Type} {r r' : Reader α}

/-! ### Primitives -/

theorem map (h : Compositional R) (f : α → β) (hr : R α r r') : R β (f <$> r) (f <$> r') := by
  rw [map_eq_pure_bind, map_eq_pure_bind]
  exact h.bind hr fun a => h.pure (f a)

theorem word (h : Compositional R) (width : Nat) : R Nat (Reader.word width) (Reader.word width) :=
  h.map _ (h.take width)

theorem int8 (h : Compositional R) : R Int8 Reader.int8 Reader.int8 := h.map _ h.byte

theorem uint32 (h : Compositional R) : R UInt32 Reader.uint32 Reader.uint32 := h.map _ (h.word 4)

theorem int32 (h : Compositional R) : R Int32 Reader.int32 Reader.int32 := h.map _ h.uint32

theorem binary32 (h : Compositional R) : R Binary32 Reader.binary32 Reader.binary32 :=
  h.map _ h.uint32

theorem binary64 (h : Compositional R) : R Binary64 Reader.binary64 Reader.binary64 :=
  h.map _ (h.word 8)

theorem count (h : Compositional R) : R Nat Reader.count Reader.count := by
  refine h.bind h.int32 fun n => ?_
  split
  · exact h.throw trivial
  · exact h.pure _

theorem text (h : Compositional R) : R String Reader.text Reader.text := by
  refine h.bind h.count fun n => h.bind (h.take n) fun bs => ?_
  split
  · exact h.pure _
  · exact h.throw trivial

/-! ### Lists -/

theorem timesOnto (h : Compositional R) (hr : R α r r') (n : Nat) (done : List α) :
    R (List α) (Reader.timesOnto r n done) (Reader.timesOnto r' n done) := by
  induction n generalizing done with
  | zero => exact h.pure _
  | succ n ih => exact h.bind hr fun a => ih (a :: done)

theorem times (h : Compositional R) (hr : R α r r') (n : Nat) :
    R (List α) (Reader.times r n) (Reader.times r' n) := h.timesOnto hr n []

theorem textList (h : Compositional R) : R (List String) Reader.textList Reader.textList :=
  h.bind h.count fun n => h.times h.text n

/-! ### Values -/

theorem position (h : Compositional R) : R Position Reader.position Reader.position :=
  h.bind h.binary64 fun _ => h.bind h.binary64 fun _ => h.pure _

theorem lonLat (h : Compositional R) : R LonLat Reader.lonLat Reader.lonLat :=
  h.bind h.binary64 fun _ => h.bind h.binary64 fun _ => h.pure _

theorem roadMap (h : Compositional R) : R RoadMapPosition Reader.roadMap Reader.roadMap :=
  h.bind h.text fun _ => h.bind h.binary64 fun _ => h.bind h.byte fun _ => h.pure _

theorem boundingBox (h : Compositional R) : R BoundingBox Reader.boundingBox Reader.boundingBox :=
  h.bind h.position fun _ => h.bind h.position fun _ => h.pure _

theorem color (h : Compositional R) : R Color Reader.color Reader.color :=
  h.bind h.byte fun _ => h.bind h.byte fun _ => h.bind h.byte fun _ => h.bind h.byte fun _ => h.pure _

theorem points (h : Compositional R) : R (List Position) Reader.points Reader.points :=
  h.bind h.byte fun n => h.times h.position n.toNat

theorem valueType (h : Compositional R) : R ValueType Reader.valueType Reader.valueType := by
  refine h.bind h.byte fun tag => ?_
  split
  · exact h.pure _
  · exact h.throw trivial

/-- The parts of a value are read alike if the elements of a compound are. -/
theorem readParts (h : Compositional R) {element element' : Reader Value}
    (helement : R Value element element') (t : ValueType) :
    R Value (Value.readParts element t) (Value.readParts element' t) := by
  cases t with
  | ubyte => exact h.map _ h.byte
  | byte => exact h.map _ h.int8
  | int => exact h.map _ h.int32
  | float => exact h.map _ h.binary32
  | double => exact h.map _ h.binary64
  | text => exact h.map _ h.text
  | textList => exact h.map _ h.textList
  | compound => exact h.bind h.count fun n => h.map _ (h.times helement n)
  | position => exact h.map _ h.position
  | lonLat => exact h.map _ h.lonLat
  | roadMap => exact h.map _ h.roadMap
  | boundingBox => exact h.map _ h.boundingBox
  | color => exact h.map _ h.color
  | polygon => exact h.map _ h.points

/-- A property of single readers that the elements of a compound have is had by the parts of a value. -/
theorem readParts_self {P : (α : Type) → Reader α → Prop} (h : Compositional fun α r _ => P α r)
    {element : Reader Value} (helement : P Value element) (t : ValueType) :
    P Value (Value.readParts element t) :=
  @readParts _ h element element helement t

/-- A reader that may go through more bytes reads what the other one reads. -/
theorem readWithin (h : Compositional R)
    (hexhausted : ∀ r : Reader Value, R Value (MonadExcept.throw (.underflow 1 0)) r) {n m : Nat}
    (hle : n ≤ m) : R Value (Value.readWithin n) (Value.readWithin m) := by
  induction n generalizing m with
  | zero => exact hexhausted _
  | succ n ih =>
    obtain ⟨m, rfl⟩ : ∃ k, m = k + 1 := ⟨m - 1, by omega⟩
    exact h.bind h.valueType fun t => h.readParts (ih (Nat.le_of_succ_le_succ hle)) t

/-! ### Commands -/

theorem readLength (h : Compositional R) : R Nat Command.readLength Command.readLength := by
  refine h.bind h.byte fun short => ?_
  split
  · refine h.bind (h.word 4) fun total => ?_
    split
    · exact h.throw trivial
    · exact h.pure _
  · split
    · exact h.throw trivial
    · exact h.pure _

theorem command (h : Compositional R) : R Command Command.read Command.read :=
  h.bind h.readLength fun n => h.bind (h.take n) fun _ => h.pure _

end Reader.Compositional

end TrafficControl
