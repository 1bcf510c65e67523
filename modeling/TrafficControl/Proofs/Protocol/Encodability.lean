import TrafficControl.Proofs.Protocol.ValueReads
import TrafficControl.Protocol.Message

/-!
# What can be written, and in how many bytes

Writing fails at a count that does not fit its field, and at nothing else. The counts of a value are
those of its nodes, in the order in which the nodes are written; what is reported is the first of them
that does not fit, wherever in the tree it stands. If all of them fit, the value takes the bytes that
its nodes add up to (`Value.encode_iff_counts_fit`).

* `Emission.Bears`: a piece of writing, its counts and its length; closed under sequencing.
* `Value.induct_items`: induction on a value along the elements of its compounds.
* `Value.bears_emit`, `Request.encode_eq_error_iff`: values and requests.
-/

namespace TrafficControl

-- Sums of natural numbers start from the zero of the core library, whatever else is in scope.
attribute [local instance (high)] Zero.ofOfNat0

/-! ### Counts -/

/-- A size that is written in front of what it counts. -/
inductive Count where
  /-- The points of a polygon. -/
  | points (n : Nat)
  /-- The bytes of a text, or the elements of a list of texts or of a compound. -/
  | elements (n : Nat)
  /-- All bytes of a command or of a frame. -/
  | total (n : Nat)
  deriving DecidableEq, Repr

namespace Count

def size : Count → Nat
  | points n | elements n | total n => n

/-- The largest size that the field of the count can say. -/
def limit : Count → Nat
  | points _ => 255
  | elements _ => 2147483647
  | total _ => 4294967295

/-- What is reported if the count does not fit its field. -/
def excess : Count → FrameError
  | points n => .polygonTooLarge n
  | elements n | total n => .frameTooLarge n

def Fits (k : Count) : Prop := k.size ≤ k.limit

instance : DecidablePred Fits := fun k => inferInstanceAs (Decidable (k.size ≤ k.limit))

/-- What is reported for counts in a row: the first that does not fit. -/
def firstExcess (counts : List Count) : Option FrameError :=
  (counts.find? fun k => !decide k.Fits).map excess

@[simp] theorem firstExcess_nil : firstExcess [] = none := rfl

theorem firstExcess_append (ks js : List Count) :
    firstExcess (ks ++ js) = (firstExcess ks).or (firstExcess js) := by
  unfold firstExcess
  rw [List.find?_append]
  cases ks.find? fun k => !decide k.Fits <;> rfl

theorem firstExcess_singleton (k : Count) :
    firstExcess [k] = if k.Fits then none else some k.excess := by
  unfold firstExcess
  by_cases h : k.Fits <;> simp [h]

theorem firstExcess_eq_none_iff {counts : List Count} :
    firstExcess counts = none ↔ ∀ k ∈ counts, k.Fits := by
  simp [firstExcess]

theorem firstExcess_eq_some_iff {counts : List Count} {e : FrameError} :
    firstExcess counts = some e ↔
      ∃ before k after, counts = before ++ k :: after ∧ (∀ j ∈ before, j.Fits) ∧ ¬ k.Fits ∧
        e = k.excess := by
  simp only [firstExcess, Option.map_eq_some_iff, List.find?_eq_some_iff_append]
  constructor
  · rintro ⟨k, ⟨hk, before, after, hsplit, hbefore⟩, rfl⟩
    exact ⟨before, k, after, hsplit, by simpa using hbefore, by simpa using hk, rfl⟩
  · rintro ⟨before, k, after, hsplit, hbefore, hk, rfl⟩
    exact ⟨k, ⟨by simpa using hk, before, after, hsplit, by simpa using hbefore⟩, rfl⟩

/-- What is reported for counts in a row is reported for one of them. -/
theorem exists_of_firstExcess {counts : List Count} {e : FrameError}
    (h : firstExcess counts = some e) : ∃ k : Count, ¬ k.Fits ∧ e = k.excess := by
  obtain ⟨-, k, -, -, -, hk, he⟩ := firstExcess_eq_some_iff.mp h
  exact ⟨k, hk, he⟩

end Count

/-! ### Writing and its counts -/

/-- The bytes of a text and of its count. -/
def textWidth (s : String) : Nat := 4 + (Utf8.bytes s).length

namespace Emission

/-- Writing that fails at the first of some counts that does not fit, and is so long if all fit. -/
structure Bears (e : Emission) (counts : List Count) (width : Nat) : Prop where
  stopped_eq : e.stopped = Count.firstExcess counts
  length_eq : e.stopped = none → e.bytes.length = width

namespace Bears

variable {e e' : Emission} {ks js : List Count} {m n : Nat}

theorem raw (bs : Bytes) : (Emission.raw bs).Bears [] bs.length := ⟨rfl, fun _ => rfl⟩

theorem word (width k : Nat) : (Emission.word width k).Bears [] width :=
  ⟨rfl, fun _ => Word.length_bytes width k⟩

theorem append (h : e.Bears ks m) (h' : e'.Bears js n) : (e ++ e').Bears (ks ++ js) (m + n) where
  stopped_eq := by
    rw [Count.firstExcess_append, ← h.stopped_eq, ← h'.stopped_eq]
    rcases hs : e.stopped with _ | failure
    · rw [append_of_not_stopped e' hs]
      rfl
    · rw [append_of_stopped e' (by rw [hs]; exact nofun), hs]
      rfl
  length_eq := by
    intro hs
    obtain ⟨he, he'⟩ := append_stopped_eq_none.mp hs
    rw [append_bytes e' he, List.length_append, h.length_eq he, h'.length_eq he']

theorem concat {ι : Type} {write : ι → Emission} {counts : ι → List Count} {width : ι → Nat}
    {items : List ι} (h : ∀ i ∈ items, (write i).Bears (counts i) (width i)) :
    (Emission.concat (items.map write)).Bears (items.flatMap counts) (items.map width).sum := by
  induction items with
  | nil => exact raw []
  | cons i items ih =>
    obtain ⟨hi, hitems⟩ := List.forall_mem_cons.mp h
    rw [List.flatMap_cons, List.map_cons, List.map_cons, List.sum_cons]
    exact hi.append (ih hitems)

/-- What is written only if a count fits. -/
theorem guarded {p : Prop} [Decidable p] {k : Count} (hfits : p ↔ k.Fits) (h : e.Bears [] n) :
    (if p then e else stop k.excess).Bears [k] n := by
  by_cases hp : p
  · rw [if_pos hp]
    refine ⟨?_, h.length_eq⟩
    rw [Count.firstExcess_singleton, if_pos (hfits.mp hp)]
    exact h.stopped_eq
  · rw [if_neg hp]
    refine ⟨?_, fun hs => nomatch hs⟩
    rw [Count.firstExcess_singleton, if_neg (mt hfits.mpr hp)]
    rfl

theorem count (k : Nat) : (Emission.count k).Bears [.elements k] 4 := by
  have hfits : k < countBound ↔ (Count.elements k).Fits := Nat.lt_succ_iff
  exact guarded hfits (word 4 k)

theorem text (s : String) :
    (Emission.text s).Bears [.elements (Utf8.bytes s).length] (textWidth s) :=
  (count _).append (raw _)

theorem textList (items : List String) :
    (Emission.textList items).Bears
      (.elements items.length :: items.map fun s => .elements (Utf8.bytes s).length)
      (4 + (items.map textWidth).sum) := by
  have hall : (Emission.concat (items.map Emission.text)).Bears
      (items.flatMap fun s => [.elements (Utf8.bytes s).length])
      (items.map textWidth).sum := concat fun s _ => text s
  rw [← List.map_eq_flatMap] at hall
  exact (count items.length).append hall

theorem position (p : Position) : p.emit.Bears [] (8 + 8) := (word 8 _).append (word 8 _)

theorem polygon (points : List Position) :
    (emitPolygon points).Bears [.points points.length] (1 + 16 * points.length) := by
  have hpoints : (Emission.concat (points.map Position.emit)).Bears (points.flatMap fun _ => [])
      (points.map fun _ => 8 + 8).sum := concat fun p _ => position p
  have hnone : (points.flatMap fun _ => ([] : List Count)) = [] := by simp
  have hsum : (points.map fun _ => 8 + 8).sum = 16 * points.length := by
    rw [List.map_const', List.sum_replicate_nat, Nat.mul_comm]
  rw [hnone, hsum] at hpoints
  have hfits : points.length < UInt8.size ↔ (Count.points points.length).Fits := Nat.lt_succ_iff
  exact guarded hfits ((raw [UInt8.ofNat points.length]).append hpoints)

end Bears

end Emission

/-! ### The tree of a value -/

theorem sum_map_flatMap {α β : Type} (items : List α) (g : α → List β) (f : β → Nat) :
    ((items.flatMap g).map f).sum = (items.map fun a => ((g a).map f).sum).sum := by
  induction items with
  | nil => rfl
  | cons a items ih =>
    rw [List.flatMap_cons, List.map_append, List.sum_append_nat, ih, List.map_cons, List.sum_cons]

namespace Value

/-- What holds of a value if it holds of its elements, where it has any, holds of every value. -/
theorem induct_items {P : Value → Prop}
    (h : ∀ v, (∀ items, v = .compound items → ∀ x ∈ items, P x) → P v) (v : Value) : P v := by
  refine h v ?_
  intro items hv x hx
  exact induct_items h x
termination_by sizeOf v
decreasing_by
  subst hv
  have hlt := List.sizeOf_lt_of_mem hx
  simp only [compound.sizeOf_spec]
  omega

mutual

/-- The values that a value is made of at any depth, itself first, in the order in which they are
written. -/
def nodes : Value → List Value
  | .compound items => .compound items :: nodesAll items
  | v => [v]

def nodesAll : List Value → List Value
  | [] => []
  | v :: vs => v.nodes ++ nodesAll vs

end

/-- The counts that a value writes itself, those of its elements left out. -/
def counts : Value → List Count
  | .text s => [.elements (Utf8.bytes s).length]
  | .textList items => .elements items.length :: items.map fun s => .elements (Utf8.bytes s).length
  | .compound items => [.elements items.length]
  | .roadMap p => [.elements (Utf8.bytes p.edge).length]
  | .polygon points => [.points points.length]
  | _ => []

/-- The bytes of a value, those of its elements left out: one for the tag, and then the parts. -/
def ownWidth : Value → Nat
  | .ubyte _ | .byte _ => 1 + 1
  | .int _ | .float _ => 1 + 4
  | .double _ => 1 + 8
  | .text s => 1 + textWidth s
  | .textList items => 1 + (4 + (items.map textWidth).sum)
  | .compound _ => 1 + 4
  | .position _ | .lonLat _ => 1 + (8 + 8)
  | .roadMap p => 1 + (textWidth p.edge + 8 + 1)
  | .boundingBox _ => 1 + (8 + 8 + (8 + 8))
  | .color _ => 1 + (1 + 1 + 1 + 1)
  | .polygon points => 1 + (1 + 16 * points.length)

theorem nodesAll_eq (vs : List Value) : nodesAll vs = vs.flatMap nodes := by
  induction vs with
  | nil => rw [nodesAll]; rfl
  | cons v vs ih => rw [nodesAll, ih, List.flatMap_cons]

theorem nodes_compound (items : List Value) :
    (compound items).nodes = .compound items :: items.flatMap nodes := by
  rw [nodes, nodesAll_eq]

/-- A value without elements is its only node. -/
theorem nodes_eq_singleton {v : Value} (h : ∀ items, v ≠ .compound items) : v.nodes = [v] := by
  cases v with
  | compound items => exact absurd rfl (h items)
  | _ => rw [nodes]; simp

end Value

/-! ### Values -/

namespace Value

/-- A tag is a byte in front of the parts. -/
theorem bears_of_parts {v : Value} {counts : List Count} {width : Nat}
    (h : v.emitParts.Bears counts width) : v.emit.Bears counts (1 + width) := by
  rw [emit_eq]
  exact (Emission.Bears.raw [v.type.tag]).append h

/-- Writing the parts of a value without elements fails at the first of its own counts that does not
fit. -/
theorem bears_emit_of_plain {v : Value} (h : ∀ items, v ≠ .compound items) :
    v.emit.Bears v.counts v.ownWidth := by
  cases v with
  | compound items => exact absurd rfl (h items)
  | ubyte n => exact bears_of_parts (.raw [n])
  | byte n => exact bears_of_parts (.raw [n.toUInt8])
  | int n => exact bears_of_parts (.word 4 n.toUInt32.toNat)
  | float x => exact bears_of_parts (.word 4 x.bits.toNat)
  | double x => exact bears_of_parts (.word 8 x.bits.toNat)
  | text s => exact bears_of_parts (.text s)
  | textList items => exact bears_of_parts (.textList items)
  | position p => exact bears_of_parts (.position p)
  | lonLat p => exact bears_of_parts ((Emission.Bears.word 8 _).append (.word 8 _))
  | roadMap p =>
    exact bears_of_parts (((Emission.Bears.text p.edge).append (.word 8 _)).append (.raw [p.lane]))
  | boundingBox b =>
    exact bears_of_parts ((Emission.Bears.position b.lowerLeft).append (.position b.upperRight))
  | color c =>
    exact bears_of_parts ((((Emission.Bears.raw [c.red]).append (.raw [c.green])).append
      (.raw [c.blue])).append (.raw [c.alpha]))
  | polygon points => exact bears_of_parts (.polygon points)

/-- Writing a value fails at the first count of its tree that does not fit. -/
theorem bears_emit (v : Value) :
    v.emit.Bears (v.nodes.flatMap counts) (v.nodes.map ownWidth).sum := by
  induction v using induct_items with
  | h v ih =>
    by_cases hplain : ∀ items, v ≠ .compound items
    · rw [nodes_eq_singleton hplain, List.flatMap_singleton, List.map_singleton, List.sum_singleton]
      exact bears_emit_of_plain hplain
    · obtain ⟨items, rfl⟩ : ∃ items, v = .compound items := by simpa using hplain
      have hparts := (Emission.Bears.count items.length).append (Emission.Bears.concat (ih items rfl))
      rw [← emitAll_eq] at hparts
      rw [nodes_compound, List.flatMap_cons, List.flatMap_assoc, List.map_cons, List.sum_cons,
        sum_map_flatMap, ownWidth, Nat.add_assoc]
      exact bears_of_parts hparts

/-- A value is written exactly if every polygon, text, list of texts and compound of its tree has a size
that its count can say. Otherwise the failure is that of the first count, in the order of writing, that
cannot, and names the size there. The bytes of a value are those that its nodes add up to. -/
theorem encode_iff_counts_fit (v : Value) :
    ((∃ bytes, v.encode = .ok bytes) ↔ ∀ w ∈ v.nodes, ∀ k ∈ w.counts, k.size ≤ k.limit) ∧
    (∀ e, v.encode = .error e ↔ ∃ before k after, v.nodes.flatMap counts = before ++ k :: after ∧
      (∀ j ∈ before, j.size ≤ j.limit) ∧ k.limit < k.size ∧ e = k.excess) ∧
    ∀ bytes, v.encode = .ok bytes → bytes.length = (v.nodes.map ownWidth).sum := by
  have hbears := v.bears_emit
  refine ⟨?_, ?_, ?_⟩
  · have hfits : (∀ w ∈ v.nodes, ∀ k ∈ w.counts, k.size ≤ k.limit) ↔
        ∀ k ∈ v.nodes.flatMap counts, k.Fits := by
      simp only [List.forall_mem_flatMap]
      rfl
    rw [hfits, ← Count.firstExcess_eq_none_iff, ← hbears.stopped_eq]
    constructor
    · rintro ⟨bytes, h⟩
      exact (Emission.result_eq_ok_iff.mp h).1
    · intro hs
      exact ⟨v.emit.bytes, Emission.result_eq_ok_iff.mpr ⟨hs, rfl⟩⟩
  · intro e
    simp only [← Nat.not_le]
    unfold encode
    rw [Emission.result_eq_error_iff, hbears.stopped_eq]
    exact Count.firstExcess_eq_some_iff
  · intro bytes h
    obtain ⟨hs, rfl⟩ := Emission.result_eq_ok_iff.mp h
    exact hbears.length_eq hs

/-- A value with counts at three depths. -/
def itinerary : Value :=
  .compound [.text "né", .compound [.textList ["e0", ""], .polygon [⟨⟨1⟩, ⟨2⟩⟩]], .int 7]

/-- A value with two polygons that have too many points, behind others whose counts fit. -/
def overgrown : Value :=
  .compound [.text "né", .compound [.int 7, .polygon (.replicate 256 ⟨⟨1⟩, ⟨2⟩⟩)],
    .polygon (.replicate 300 ⟨⟨1⟩, ⟨2⟩⟩)]

theorem first_overgrown_polygon_reported :
    (∃ bytes, itinerary.encode = .ok bytes ∧ bytes.length = 56) ∧
      overgrown.encode = .error (.polygonTooLarge 256) := by
  obtain ⟨hok, -, hlength⟩ := encode_iff_counts_fit itinerary
  obtain ⟨-, herror, -⟩ := encode_iff_counts_fit overgrown
  constructor
  · obtain ⟨bytes, hbytes⟩ := hok.mpr (by decide)
    exact ⟨bytes, hbytes, (hlength bytes hbytes).trans (by decide)⟩
  · exact (herror _).mpr ⟨[.elements 3, .elements 3, .elements 2], .points 256, [.points 300],
      by decide +kernel, by decide, by decide, rfl⟩

end Value

/-! ### Requests -/

open Emission.Bears in
/-- A command is written unless its length does not fit its field. -/
theorem Command.bears_emit (c : Command) : c.emit.Bears [.total c.size] c.size := by
  have hfits : c.size < UInt32.size ↔ (Count.total c.size).Fits := Nat.lt_succ_iff
  have hbody := (raw [c.id]).append (raw c.payload)
  unfold emit
  rw [Emission.append_assoc]
  by_cases hlong : c.isLong
  · have hall := (guarded hfits ((raw [0]).append (word 4 c.size))).append hbody
    have hsize : [(0 : UInt8)].length + 4 + ([c.id].length + c.payload.length) = c.size := by
      rw [size, if_pos hlong, Nat.add_assoc 5]
      rfl
    rw [hsize] at hall
    simp only [if_pos hlong]
    exact hall
  · have hall := (raw [UInt8.ofNat c.size]).append hbody
    have hsize : [UInt8.ofNat c.size].length + ([c.id].length + c.payload.length) = c.size := by
      rw [size, if_neg hlong, Nat.add_assoc 1]
      rfl
    -- a short length is one that fits anyway
    have hshort : c.size < UInt32.size := by
      rw [isLong, decide_eq_true_eq] at hlong
      rw [← hsize]
      simp only [List.length_singleton, UInt32.size]
      omega
    rw [hsize] at hall
    simp only [if_neg hlong]
    refine ⟨?_, hall.length_eq⟩
    rw [Count.firstExcess_singleton, if_pos (hfits.mp hshort)]
    exact hall.stopped_eq

/-- A frame is closed unless a count of its body does not fit, or its own length. -/
theorem Frame.close_eq_error_iff {body : Emission} {counts : List Count} {width : Nat}
    (h : body.Bears counts width) {e : FrameError} :
    close body = .error e ↔ Count.firstExcess (counts ++ [.total (4 + width)]) = some e := by
  have hfits : 4 + width < UInt32.size ↔ (Count.total (4 + width)).Fits := Nat.lt_succ_iff
  rw [Count.firstExcess_append, ← h.stopped_eq, Count.firstExcess_singleton]
  unfold close
  rcases hs : body.stopped with _ | failure
  · rw [Emission.result_eq_ok_iff.mpr ⟨hs, rfl⟩]
    show (if 4 + body.bytes.length < UInt32.size then
        (Pure.pure (Word.bytes 4 (4 + body.bytes.length) ++ body.bytes) : Except FrameError Bytes)
      else throw (.frameTooLarge (4 + body.bytes.length))) = .error e ↔ _
    rw [h.length_eq hs, Option.none_or]
    by_cases hlt : 4 + width < UInt32.size
    · rw [if_pos hlt, if_pos (hfits.mp hlt)]
      exact ⟨fun h => (nomatch h), fun h => (nomatch h)⟩
    · rw [if_neg hlt, if_neg (mt hfits.mpr hlt)]
      exact (Except.error.injEq _ _).to_iff.trans (Option.some.injEq _ _).to_iff.symm
  · rw [Emission.result_eq_error_iff.mpr hs, Option.some_or]
    exact (Except.error.injEq _ _).to_iff.trans (Option.some.injEq _ _).to_iff.symm

/-- The counts of a request: the length of each command and that of the frame. -/
def Request.counts (commands : List Command) : List Count :=
  (commands.map fun c => .total c.size) ++ [.total (4 + (commands.map Command.size).sum)]

/-- A request is framed unless one of its counts does not fit. -/
theorem Request.encode_eq_error_iff {commands : List Command} {e : FrameError} :
    encode commands = .error e ↔ Count.firstExcess (counts commands) = some e := by
  have hbody : (Emission.concat (commands.map Command.emit)).Bears
      (commands.flatMap fun c => [.total c.size]) (commands.map Command.size).sum :=
    .concat fun c _ => c.bears_emit
  rw [← List.map_eq_flatMap] at hbody
  exact Frame.close_eq_error_iff hbody

theorem Request.exists_encode_iff {commands : List Command} :
    (∃ frame, encode commands = .ok frame) ↔ ∀ k ∈ counts commands, k.Fits := by
  rw [← Count.firstExcess_eq_none_iff]
  constructor
  · rintro ⟨frame, h⟩
    rcases hfirst : Count.firstExcess (counts commands) with _ | e
    · rfl
    · rw [encode_eq_error_iff.mpr hfirst] at h
      cases h
  · intro hnone
    rcases h : encode commands with e | frame
    · rw [encode_eq_error_iff.mp h] at hnone
      cases hnone
    · exact ⟨frame, rfl⟩

end TrafficControl
