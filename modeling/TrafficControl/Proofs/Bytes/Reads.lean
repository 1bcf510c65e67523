import TrafficControl.Bytes.Cursor
import TrafficControl.Bytes.Emission
import TrafficControl.Proofs.Sequencing

/-!
# Reading what was written

`r.Reads e a` says that a reader and a piece of writing fit together: wherever the piece stands, `r`
takes exactly the bytes of `e`, gives `a`, and leaves what follows. Writing that was stopped fits
every reader, since no one gets to see it. The relation is closed under sequencing (`Reads.bind`), so
that a reader and a writer of the same shape fit as soon as their parts do.

* `reads_word`, `reads_count`, `reads_text`, ...: the primitives.
* `Reads.times`, `untilEnd_concat`: counted lists, and lists that go on to the end.
-/

namespace TrafficControl

-- Powers of natural numbers are those of the core library, whatever else is in scope.
attribute [local instance (high)] instPowNat

/-! ### Pieces of writing -/

namespace Emission

theorem append_of_stopped {a : Emission} (b : Emission) (h : a.stopped ≠ none) : a ++ b = a := by
  show andThen a b = a
  unfold andThen
  split
  · rfl
  · next hnone => exact absurd hnone h

theorem append_of_not_stopped {a : Emission} (b : Emission) (h : a.stopped = none) :
    a ++ b = ⟨a.bytes ++ b.bytes, b.stopped⟩ := by
  show andThen a b = _
  unfold andThen
  rw [h]

/-- Writing two pieces is not stopped if neither of them is. -/
@[simp] theorem append_stopped_eq_none {a b : Emission} :
    (a ++ b).stopped = none ↔ a.stopped = none ∧ b.stopped = none := by
  by_cases h : a.stopped = none
  · rw [append_of_not_stopped b h]
    exact ⟨fun hb => ⟨h, hb⟩, And.right⟩
  · rw [append_of_stopped b h]
    exact ⟨fun ha => absurd ha h, fun hab => absurd hab.1 h⟩

theorem append_bytes {a : Emission} (b : Emission) (h : a.stopped = none) :
    (a ++ b).bytes = a.bytes ++ b.bytes := by
  rw [append_of_not_stopped b h]

@[simp] theorem append_nothing (a : Emission) : a ++ ({} : Emission) = a := by
  by_cases h : a.stopped = none
  · rw [append_of_not_stopped _ h, List.append_nil, ← h]
  · rw [append_of_stopped _ h]

theorem append_assoc (a b c : Emission) : a ++ b ++ c = a ++ (b ++ c) := by
  by_cases ha : a.stopped = none
  · by_cases hb : b.stopped = none
    · have hab : (a ++ b).stopped = none := append_stopped_eq_none.mpr ⟨ha, hb⟩
      rw [append_of_not_stopped c hab, append_bytes b ha, append_of_not_stopped _ ha,
        append_of_not_stopped c hb, List.append_assoc]
    · have hab : (a ++ b).stopped ≠ none := fun h => hb (append_stopped_eq_none.mp h).2
      rw [append_of_stopped c hab, append_of_stopped c hb]
  · rw [append_of_stopped b ha, append_of_stopped c ha, append_of_stopped _ ha]

theorem concat_cons (a : Emission) (pieces : List Emission) :
    concat (a :: pieces) = a ++ concat pieces := rfl

theorem stopped_of_concat {pieces : List Emission} (hs : (concat pieces).stopped = none)
    {a : Emission} (h : a ∈ pieces) : a.stopped = none := by
  induction pieces with
  | nil => cases h
  | cons b pieces ih =>
    obtain ⟨hb, hpieces⟩ := append_stopped_eq_none.mp hs
    rcases List.mem_cons.mp h with rfl | h
    · exact hb
    · exact ih hpieces h

/-- A piece is no longer than all pieces together. -/
theorem length_le_concat {pieces : List Emission} (hs : (concat pieces).stopped = none)
    {a : Emission} (h : a ∈ pieces) : a.bytes.length ≤ (concat pieces).bytes.length := by
  induction pieces with
  | nil => cases h
  | cons b pieces ih =>
    rw [concat_cons] at hs ⊢
    obtain ⟨hb, hpieces⟩ := append_stopped_eq_none.mp hs
    rw [append_bytes _ hb, List.length_append]
    rcases List.mem_cons.mp h with rfl | h
    · exact Nat.le_add_right _ _
    · exact Nat.le_add_left_of_le (ih hpieces h)

theorem eq_raw {a : Emission} (h : a.stopped = none) : a = raw a.bytes := by
  rw [raw, ← h]

/-- Counts that fit their field are written. -/
theorem count_of_lt {n : Nat} (h : n < countBound) : count n = raw (Word.bytes 4 n) :=
  if_pos h

theorem count_stopped_iff {n : Nat} : (count n).stopped = none ↔ n < countBound := by
  unfold count
  split
  · next h => exact ⟨fun _ => h, fun _ => rfl⟩
  · next h => exact ⟨fun hs => (nomatch hs), fun hn => absurd hn h⟩

/-- A text is written if its length fits the field. -/
theorem text_of_lt {s : String} (h : (Utf8.bytes s).length < countBound) :
    text s = raw (Word.bytes 4 (Utf8.bytes s).length ++ Utf8.bytes s) := by
  show count (Utf8.bytes s).length ++ raw (Utf8.bytes s) = _
  rw [count_of_lt h]
  rfl

theorem text_stopped_iff {s : String} :
    (text s).stopped = none ↔ (Utf8.bytes s).length < countBound := by
  show (count (Utf8.bytes s).length ++ raw (Utf8.bytes s)).stopped = none ↔ _
  rw [append_stopped_eq_none, count_stopped_iff]
  exact and_iff_left rfl

/-- Bytes one after another are written as they are. -/
theorem concat_raw {ι : Type} (bytes : ι → Bytes) (items : List ι) :
    concat (items.map fun i => raw (bytes i)) = raw (items.flatMap bytes) := by
  induction items with
  | nil => rfl
  | cons i items ih =>
    rw [List.map_cons, concat_cons, ih, List.flatMap_cons]
    rfl

theorem result_eq_ok_iff {a : Emission} {bs : Bytes} :
    a.result = .ok bs ↔ a.stopped = none ∧ a.bytes = bs := by
  unfold result
  split
  · next h => simp [h]
  · next h => simp [h]

theorem result_eq_error_iff {a : Emission} {e : FrameError} :
    a.result = .error e ↔ a.stopped = some e := by
  unfold result
  split
  · next h => simp [h]
  · next h => simp [h]

end Emission

namespace Reader

variable {α β : Type}

/-- A reader gives `a` for what `e` wrote, and takes just that. -/
def Reads (r : Reader α) (e : Emission) (a : α) : Prop :=
  e.stopped = none → ∀ rest pos, r ⟨e.bytes ++ rest, pos⟩ = .ok a ⟨rest, pos + e.bytes.length⟩

/-! ### Readers put together -/

namespace Reads

variable {r : Reader α} {e e' : Emission} {a : α} {b : β}

/-- Whoever reads may take it that the writing was not stopped. -/
theorem of_complete (h : e.stopped = none → r.Reads e a) : r.Reads e a :=
  fun hs => h hs hs

theorem pure (a : α) : (Pure.pure a : Reader α).Reads {} a := fun _ _ _ => rfl

theorem bind {f : α → Reader β} (hr : r.Reads e a) (hf : (f a).Reads e' b) :
    (r >>= f).Reads (e ++ e') b := by
  intro hs rest pos
  obtain ⟨he, he'⟩ := Emission.append_stopped_eq_none.mp hs
  rw [Emission.append_bytes e' he, List.append_assoc, EStateM.bind_of_ok (hr he _ pos), hf he',
    List.length_append, Nat.add_assoc]

/-- The last part of a reader may take nothing more. -/
theorem bind_pure {f : α → Reader β} (hr : r.Reads e a) (hf : f a = Pure.pure b) :
    (r >>= f).Reads e b := by
  have h := hr.bind (f := f) (hf ▸ pure b)
  rwa [Emission.append_nothing] at h

theorem map (f : α → β) (hr : r.Reads e a) : (f <$> r).Reads e (f a) :=
  fun hs rest pos => EStateM.map_of_ok f (hr hs rest pos)

/-- What one reader reads tells where the bytes of it end. -/
theorem unique {a' : α} {bs bs' rest rest' : Bytes} (h : r.Reads (.raw bs) a)
    (h' : r.Reads (.raw bs') a') (heq : bs ++ rest = bs' ++ rest') :
    a = a' ∧ bs = bs' ∧ rest = rest' := by
  have hread := h rfl rest 0
  have hread' := h' rfl rest' 0
  simp only [Emission.raw, heq] at hread hread'
  rw [hread'] at hread
  injection hread with ha hcursor
  injection hcursor with hrest hpos
  refine ⟨ha.symm, ?_, hrest.symm⟩
  rw [hrest] at heq
  exact List.append_cancel_right heq

end Reads

/-! ### Primitives -/

theorem reads_take (bs : Bytes) : (take bs.length).Reads (.raw bs) bs := by
  intro _ rest pos
  show take bs.length ⟨bs ++ rest, pos⟩ = .ok bs ⟨rest, pos + bs.length⟩
  unfold take
  rw [List.splitAt_eq, List.take_left, List.drop_left]
  exact if_pos rfl

theorem reads_byte (b : UInt8) : byte.Reads (.byte b) b := fun _ _ _ => rfl

theorem reads_word {width n : Nat} (h : n < 256 ^ width) :
    (word width).Reads (.word width n) n := by
  have htake := (reads_take (Word.bytes width n)).map Word.value
  rwa [Word.length_bytes, Word.value_bytes h] at htake

theorem reads_int8 (n : Int8) : int8.Reads (.int8 n) n := by
  have h := (reads_byte n.toUInt8).map UInt8.toInt8
  rwa [Int8.toInt8_toUInt8] at h

theorem reads_uint32 (n : UInt32) : uint32.Reads (.uint32 n) n := by
  have h := (@reads_word 4 n.toNat n.toNat_lt).map UInt32.ofNat
  rwa [UInt32.ofNat_toNat] at h

theorem reads_int32 (n : Int32) : int32.Reads (.int32 n) n := by
  have h := (reads_uint32 n.toUInt32).map UInt32.toInt32
  rwa [Int32.toInt32_toUInt32] at h

theorem reads_binary32 (x : Binary32) : binary32.Reads (.binary32 x) x :=
  (reads_uint32 x.bits).map Binary32.mk

theorem reads_binary64 (x : Binary64) : binary64.Reads (.binary64 x) x := by
  have h := (@reads_word 8 x.bits.toNat x.bits.toNat_lt).map
    (Binary64.mk ∘ UInt64.ofNat)
  rwa [Function.comp_apply, UInt64.ofNat_toNat] at h

/-- A count that fits its signed field is read back. -/
theorem reads_count (n : Nat) : count.Reads (.count n) n := by
  unfold Emission.count
  split
  · next hn =>
    have hn : n < 0x80000000 := hn
    have hword : int32.Reads (.word 4 n) (Int32.ofNat n) := by
      have h := ((@reads_word 4 n (by omega)).map UInt32.ofNat).map UInt32.toInt32
      exact h
    refine hword.bind_pure ?_
    have htoInt : (Int32.ofNat n).toInt = n := Int32.toInt_ofNat_of_lt (by omega)
    rw [if_neg, htoInt]
    · rfl
    · rw [Int32.lt_iff_toInt_lt, htoInt]
      exact Int.not_lt.mpr (Int.natCast_nonneg n)
  · exact fun hs => nomatch hs

theorem reads_text (s : String) : text.Reads (.text s) s := by
  refine (reads_count (Utf8.bytes s).length).bind ((reads_take (Utf8.bytes s)).bind_pure ?_)
  rw [Utf8.text?_bytes]

/-! ### Lists -/

/-- As long as bytes are left, one more element is read. -/
theorem untilEndOnto_of_ne_nil {r : Reader α} {rest : Bytes} (hrest : rest ≠ []) (fuel : Nat)
    (done : List α) (pos : Nat) :
    untilEndOnto r (fuel + 1) done ⟨rest, pos⟩ =
      (r >>= fun a => untilEndOnto r fuel (a :: done)) ⟨rest, pos⟩ := by
  have hempty : rest.isEmpty = false := List.isEmpty_eq_false_iff.mpr hrest
  rw [untilEndOnto, EStateM.bind_of_ok (x := MonadState.get) rfl]
  exact congrFun (if_neg (by rw [hempty]; exact Bool.false_ne_true)) _

section Lists

variable {ι : Type} {r : Reader α} {write : ι → Emission} {value : ι → α} {items : List ι}

/-- A reader that fits the writing of each item fits the items one after another. -/
theorem reads_timesOnto (h : ∀ i ∈ items, r.Reads (write i) (value i)) (done : List α) :
    (timesOnto r items.length done).Reads (.concat (items.map write))
      (done.reverse ++ items.map value) := by
  induction items generalizing done with
  | nil =>
    simp only [List.map_nil, List.append_nil]
    exact .pure _
  | cons i items ih =>
    have htail := ih (fun j hj => h j (List.mem_cons_of_mem i hj)) (value i :: done)
    rw [List.reverse_cons, List.append_assoc, List.singleton_append] at htail
    exact (h i List.mem_cons_self).bind htail

theorem Reads.timesEach (h : ∀ i ∈ items, r.Reads (write i) (value i)) :
    (times r items.length).Reads (.concat (items.map write)) (items.map value) :=
  reads_timesOnto h []

theorem Reads.times {write : α → Emission} {items : List α}
    (h : ∀ a ∈ items, r.Reads (write a) a) :
    (Reader.times r items.length).Reads (.concat (items.map write)) items := by
  have hitems : (Reader.times r items.length).Reads (.concat (items.map write)) (items.map id) :=
    .timesEach h
  rwa [List.map_id] at hitems

theorem reads_textList (items : List String) : textList.Reads (.textList items) items :=
  (reads_count items.length).bind (Reads.times fun s _ => reads_text s)

/-- Items that take up bytes are read up to the end of the bytes. -/
theorem untilEndOnto_concat (h : ∀ i ∈ items, r.Reads (write i) (value i))
    (hne : ∀ i ∈ items, (write i).bytes ≠ [])
    (hs : (Emission.concat (items.map write)).stopped = none) (done : List α) (pos fuel : Nat)
    (hfuel : (Emission.concat (items.map write)).bytes.length ≤ fuel) :
    untilEndOnto r fuel done ⟨(Emission.concat (items.map write)).bytes, pos⟩ =
      .ok (done.reverse ++ items.map value)
        ⟨[], pos + (Emission.concat (items.map write)).bytes.length⟩ := by
  induction items generalizing done pos fuel with
  | nil =>
    simp only [List.map_nil, List.append_nil]
    cases fuel <;> rfl
  | cons i items ih =>
    rw [List.map_cons, Emission.concat_cons] at hs hfuel ⊢
    obtain ⟨hi, hitems⟩ := Emission.append_stopped_eq_none.mp hs
    have hnonempty := hne i List.mem_cons_self
    have hpos := List.length_pos_iff.mpr hnonempty
    rw [Emission.append_bytes _ hi, List.length_append] at hfuel
    rw [Emission.append_bytes _ hi]
    obtain ⟨fuel, rfl⟩ : ∃ k, fuel = k + 1 := ⟨fuel - 1, by omega⟩
    have hrest : (write i).bytes ++ (Emission.concat (items.map write)).bytes ≠ [] :=
      List.append_ne_nil_of_left_ne_nil hnonempty _
    rw [untilEndOnto_of_ne_nil hrest, EStateM.bind_of_ok (h i List.mem_cons_self hi _ pos),
      ih (fun j hj => h j (List.mem_cons_of_mem i hj)) (fun j hj => hne j (List.mem_cons_of_mem i hj))
        hitems (value i :: done) _ fuel (by omega),
      List.reverse_cons, List.append_assoc, List.singleton_append, List.length_append, Nat.add_assoc,
      List.map_cons]

/-- What fills the rest of the bytes is read back, if every item takes up bytes. -/
theorem untilEnd_concat (h : ∀ i ∈ items, r.Reads (write i) (value i))
    (hne : ∀ i ∈ items, (write i).bytes ≠ [])
    (hs : (Emission.concat (items.map write)).stopped = none) (pos : Nat) :
    untilEnd r ⟨(Emission.concat (items.map write)).bytes, pos⟩ =
      .ok (items.map value) ⟨[], pos + (Emission.concat (items.map write)).bytes.length⟩ := by
  rw [untilEnd, EStateM.bind_of_ok (x := MonadState.get) rfl]
  exact untilEndOnto_concat h hne hs [] pos _ (Nat.le_refl _)

end Lists

end Reader

end TrafficControl
