import TrafficControl.Proofs.Bytes.Reads

/-!
# What a reader has taken

`c.Passes e c'` says that a cursor has moved over just the bytes that a piece of writing leaves.
`r.Takes write` says that a reader which succeeds has passed over the writing of its result: there is
no second way to spell what it gives. Together with `Reads` this makes reader and writer inverse to
each other. Both are closed under sequencing. Where there are several ways to spell a result,
`r.SpelledBy value write` says that a reader has passed over one of them.

* `takes_word`, `takes_count`, `takes_text`, ...: the primitives.
* `SpelledBy.times`, `SpelledBy.untilEnd`: counted lists, and lists that go on to the end.
-/

namespace TrafficControl

-- Powers of natural numbers are those of the core library, whatever else is in scope.
attribute [local instance (high)] instPowNat

/-- A cursor has moved over the bytes of a piece of writing that was not stopped. -/
structure Cursor.Passes (c : Cursor) (e : Emission) (c' : Cursor) : Prop where
  complete : e.stopped = none
  rest_eq : c.rest = e.bytes ++ c'.rest
  pos_eq : c'.pos = c.pos + e.bytes.length

namespace Cursor.Passes

variable {c c₁ c' : Cursor} {e e' : Emission}

theorem nothing (c : Cursor) : c.Passes {} c := ⟨rfl, rfl, rfl⟩

theorem append (h : c.Passes e c₁) (h' : c₁.Passes e' c') : c.Passes (e ++ e') c' where
  complete := Emission.append_stopped_eq_none.mpr ⟨h.complete, h'.complete⟩
  rest_eq := by
    rw [Emission.append_bytes e' h.complete, List.append_assoc, ← h'.rest_eq, h.rest_eq]
  pos_eq := by
    rw [Emission.append_bytes e' h.complete, List.length_append, h'.pos_eq, h.pos_eq, Nat.add_assoc]

/-- What was left is what was passed over and what is left. -/
theorem remaining_eq (h : c.Passes e c') : c.remaining = e.bytes.length + c'.remaining := by
  unfold Cursor.remaining
  rw [h.rest_eq, List.length_append]

theorem remaining_le (h : c.Passes e c') : c'.remaining ≤ c.remaining := by
  rw [h.remaining_eq]
  exact Nat.le_add_left _ _

end Cursor.Passes

namespace Reader

variable {α β : Type}

/-- A reader that succeeds has passed over the writing of its result. -/
def Takes (r : Reader α) (write : α → Emission) : Prop :=
  ∀ ⦃c c' : Cursor⦄ ⦃a : α⦄, r c = .ok a c' → c.Passes (write a) c'

/-- A reader that succeeds has passed over one of the spellings of its result: `ι` are the spellings,
`value` is what they say and `write` are their bytes. -/
def SpelledBy {ι : Type} (r : Reader α) (value : ι → α) (write : ι → Emission) : Prop :=
  ∀ ⦃c c' : Cursor⦄ ⦃a : α⦄, r c = .ok a c' → ∃ i, value i = a ∧ c.Passes (write i) c'

theorem Takes.map {r : Reader α} {write : α → Emission} {write' : β → Emission} {f : α → β}
    (hr : r.Takes write) (hwrite : ∀ a, write' (f a) = write a) : (f <$> r).Takes write' := by
  intro c c' b h
  obtain ⟨a, ha, rfl⟩ := EStateM.map_eq_ok_iff.mp h
  rw [hwrite]
  exact hr ha

/-! ### Primitives -/

theorem take_of_le {n : Nat} {c : Cursor} (h : n ≤ c.remaining) :
    take n c = .ok (c.rest.take n) ⟨c.rest.drop n, c.pos + n⟩ := by
  unfold take
  rw [List.splitAt_eq]
  exact if_pos (List.length_take_of_le h)

theorem take_of_lt {n : Nat} {c : Cursor} (h : c.remaining < n) :
    take n c = .error (.underflow n c.remaining) c := by
  unfold take
  rw [List.splitAt_eq]
  exact if_neg (Nat.ne_of_lt (Nat.lt_of_le_of_lt (List.length_take_le' n c.rest) h))

/-- Taking bytes succeeds exactly if there are enough of them. -/
theorem take_eq_ok_iff {n : Nat} {c c' : Cursor} {bs : Bytes} :
    take n c = .ok bs c' ↔
      n ≤ c.remaining ∧ bs = c.rest.take n ∧ c' = ⟨c.rest.drop n, c.pos + n⟩ := by
  rcases Nat.lt_or_ge c.remaining n with hlt | hle
  · rw [take_of_lt hlt]
    exact ⟨nofun, fun h => absurd hlt (Nat.not_lt.mpr h.1)⟩
  · rw [take_of_le hle]
    constructor
    · intro h
      cases h
      exact ⟨hle, rfl, rfl⟩
    · rintro ⟨-, rfl, rfl⟩
      rfl

theorem take_eq_error_iff {n : Nat} {c c' : Cursor} {e : FrameError} :
    take n c = .error e c' ↔ c.remaining < n ∧ e = .underflow n c.remaining ∧ c' = c := by
  rcases Nat.lt_or_ge c.remaining n with hlt | hle
  · rw [take_of_lt hlt]
    constructor
    · intro h
      cases h
      exact ⟨hlt, rfl, rfl⟩
    · rintro ⟨-, rfl, rfl⟩
      rfl
  · rw [take_of_le hle]
    exact ⟨nofun, fun h => absurd h.1 (Nat.not_lt.mpr hle)⟩

theorem length_of_take {n : Nat} {c c' : Cursor} {bs : Bytes} (h : take n c = .ok bs c') :
    bs.length = n := by
  obtain ⟨hle, rfl, -⟩ := take_eq_ok_iff.mp h
  exact List.length_take_of_le hle

theorem takes_take (n : Nat) : (take n).Takes .raw := by
  intro c c' bs h
  have hlen := length_of_take h
  obtain ⟨-, rfl, rfl⟩ := take_eq_ok_iff.mp h
  refine ⟨rfl, (List.take_append_drop n c.rest).symm, ?_⟩
  show c.pos + n = c.pos + (c.rest.take n).length
  rw [hlen]

theorem byte_eq_error_iff {c c' : Cursor} {e : FrameError} :
    byte c = .error e c' ↔ c.rest = [] ∧ e = .underflow 1 0 ∧ c' = c := by
  obtain ⟨rest, pos⟩ := c
  cases rest with
  | nil =>
    constructor
    · intro h
      cases h
      exact ⟨rfl, rfl, rfl⟩
    · rintro ⟨-, rfl, rfl⟩
      rfl
  | cons b rest => exact ⟨nofun, nofun⟩

theorem takes_byte : byte.Takes .byte := by
  intro c c' b h
  obtain ⟨rest, pos⟩ := c
  cases rest with
  | nil => cases h
  | cons b' rest =>
    cases h
    exact ⟨rfl, rfl, rfl⟩

theorem takes_word (width : Nat) : (word width).Takes (.word width) := by
  intro c c' n h
  obtain ⟨bs, hbs, rfl⟩ := EStateM.map_eq_ok_iff.mp h
  have hbytes : Word.bytes width (Word.value bs) = bs := by
    have hback := Word.bytes_value bs 0
    rwa [Nat.zero_mul, Nat.zero_add, length_of_take hbs] at hback
  rw [Emission.word, hbytes]
  exact takes_take width hbs

theorem lt_of_word {width n : Nat} {c c' : Cursor} (h : word width c = .ok n c') :
    n < 256 ^ width := by
  obtain ⟨bs, hbs, rfl⟩ := EStateM.map_eq_ok_iff.mp h
  have hlt := Word.value_lt bs
  rwa [length_of_take hbs] at hlt

theorem takes_int8 : int8.Takes .int8 :=
  takes_byte.map fun b => by rw [Emission.int8, UInt8.toUInt8_toInt8]

theorem takes_uint32 : uint32.Takes .uint32 := by
  intro c c' n h
  obtain ⟨k, hk, rfl⟩ := EStateM.map_eq_ok_iff.mp h
  have hlt : k < UInt32.size := lt_of_word hk
  rw [Emission.uint32, UInt32.toNat_ofNat_of_lt' hlt]
  exact takes_word 4 hk

theorem takes_int32 : int32.Takes .int32 :=
  takes_uint32.map fun n => by rw [Emission.int32, UInt32.toUInt32_toInt32]

theorem takes_binary32 : binary32.Takes .binary32 := by
  intro c c' x h
  obtain ⟨n, hn, rfl⟩ := EStateM.map_eq_ok_iff.mp h
  exact takes_uint32 hn

theorem takes_binary64 : binary64.Takes .binary64 := by
  intro c c' x h
  obtain ⟨k, hk, rfl⟩ := EStateM.map_eq_ok_iff.mp h
  have hlt : k < UInt64.size := lt_of_word hk
  have htoNat : (UInt64.ofNat k).toNat = k := UInt64.toNat_ofNat_of_lt' hlt
  show c.Passes (.word 8 (UInt64.ofNat k).toNat) c'
  rw [htoNat]
  exact takes_word 8 hk

/-- A count that was read is not negative, so it fits its field. -/
theorem takes_count : count.Takes .count := by
  intro c c' k h
  obtain ⟨n, c₁, hn, h⟩ := EStateM.bind_eq_ok_iff.mp h
  split at h
  · cases h
  · next hneg =>
    cases h
    have hfits : n.toInt.toNat < Emission.countBound := by
      have hlt := n.toInt_lt
      show n.toInt.toNat < 2147483648
      omega
    have hpattern : n.toUInt32.toNat = n.toInt.toNat :=
      Int32.toNat_toUInt32_of_le (Int32.not_lt.mp hneg)
    rw [Emission.count, if_pos hfits, ← hpattern]
    exact takes_int32 hn

theorem takes_text : text.Takes .text := by
  intro c c' s h
  obtain ⟨n, c₁, hn, h⟩ := EStateM.bind_eq_ok_iff.mp h
  obtain ⟨bs, c₂, hbs, h⟩ := EStateM.bind_eq_ok_iff.mp h
  rcases hs : Utf8.text? bs with _ | s'
  · rw [hs] at h
    cases h
  · rw [hs] at h
    cases h
    have hbytes : Utf8.bytes s = bs := Utf8.text?_eq_some_iff.mp hs
    have hlen : (Utf8.bytes s).length = n := by rw [hbytes, length_of_take hbs]
    have hparts := (takes_count hn).append (takes_take n hbs)
    rwa [← hlen, ← hbytes] at hparts

/-! ### Lists -/

section Lists

variable {ι : Type} {r : Reader α} {value : ι → α} {write : ι → Emission}

theorem Takes.spelledBy {write : α → Emission} (hr : r.Takes write) : r.SpelledBy id write := by
  intro c c' a h
  exact ⟨a, rfl, hr h⟩

theorem spelled_timesOnto (hr : r.SpelledBy value write) {n : Nat} {done items : List α}
    {c c' : Cursor} (h : timesOnto r n done c = .ok items c') :
    ∃ spellings : List ι, items = done.reverse ++ spellings.map value ∧ spellings.length = n ∧
      c.Passes (.concat (spellings.map write)) c' := by
  induction n generalizing done c with
  | zero =>
    cases h
    exact ⟨[], (List.append_nil _).symm, rfl, .nothing _⟩
  | succ n ih =>
    obtain ⟨a, c₁, ha, h⟩ := EStateM.bind_eq_ok_iff.mp h
    obtain ⟨i, rfl, hi⟩ := hr ha
    obtain ⟨spellings, rfl, hlen, hpass⟩ := ih h
    refine ⟨i :: spellings, ?_, ?_, hi.append hpass⟩
    · simp
    · simp [hlen]

/-- A counted list passes over as many spellings as were asked for. -/
theorem SpelledBy.times (hr : r.SpelledBy value write) {n : Nat} {items : List α} {c c' : Cursor}
    (h : Reader.times r n c = .ok items c') :
    ∃ spellings : List ι, spellings.map value = items ∧ spellings.length = n ∧
      c.Passes (.concat (spellings.map write)) c' := by
  obtain ⟨spellings, rfl, hlen, hpass⟩ := spelled_timesOnto hr h
  exact ⟨spellings, rfl, hlen, hpass⟩

/-- A counted list passes over as many elements as were asked for. -/
theorem Takes.times {write : α → Emission} (hr : r.Takes write) {n : Nat} {items : List α}
    {c c' : Cursor} (h : Reader.times r n c = .ok items c') :
    items.length = n ∧ c.Passes (.concat (items.map write)) c' := by
  obtain ⟨spellings, rfl, hlen, hpass⟩ := hr.spelledBy.times h
  rw [List.map_id]
  exact ⟨hlen, hpass⟩

theorem spelled_untilEndOnto (hr : r.SpelledBy value write) (hne : ∀ i, (write i).bytes ≠ [])
    {fuel : Nat} {done items : List α} {c c' : Cursor} (hfuel : c.remaining ≤ fuel)
    (h : untilEndOnto r fuel done c = .ok items c') :
    ∃ spellings : List ι, items = done.reverse ++ spellings.map value ∧ c'.rest = [] ∧
      c.Passes (.concat (spellings.map write)) c' := by
  induction fuel generalizing done c with
  | zero =>
    cases h
    refine ⟨[], (List.append_nil _).symm, ?_, .nothing _⟩
    exact List.length_eq_zero_iff.mp (Nat.le_zero.mp hfuel)
  | succ fuel ih =>
    obtain ⟨rest, pos⟩ := c
    by_cases hrest : rest = []
    · subst hrest
      cases h
      exact ⟨[], (List.append_nil _).symm, rfl, .nothing _⟩
    · rw [untilEndOnto_of_ne_nil hrest] at h
      obtain ⟨a, c₁, ha, h⟩ := EStateM.bind_eq_ok_iff.mp h
      obtain ⟨i, rfl, hi⟩ := hr ha
      -- the spelling took up bytes, so fewer are left than there is fuel
      have hlen := congrArg List.length hi.rest_eq
      have hpos := List.length_pos_iff.mpr (hne i)
      simp only [List.length_append] at hlen
      have hless : c₁.remaining ≤ fuel := by
        simp only [Cursor.remaining] at hfuel ⊢
        omega
      obtain ⟨spellings, rfl, hend, hpass⟩ := ih hless h
      refine ⟨i :: spellings, ?_, hend, hi.append hpass⟩
      simp

/-- What fills the rest of the bytes is spelled from one end to the other. -/
theorem SpelledBy.untilEnd (hr : r.SpelledBy value write) (hne : ∀ i, (write i).bytes ≠ [])
    {items : List α} {c c' : Cursor} (h : Reader.untilEnd r c = .ok items c') :
    ∃ spellings : List ι, spellings.map value = items ∧ c'.rest = [] ∧
      c.Passes (.concat (spellings.map write)) c' := by
  obtain ⟨c₀, c₁, hc, h⟩ := EStateM.bind_eq_ok_iff.mp h
  cases hc
  obtain ⟨spellings, rfl, hend, hpass⟩ := spelled_untilEndOnto hr hne (Nat.le_refl _) h
  exact ⟨spellings, rfl, hend, hpass⟩

end Lists

theorem takes_textList : textList.Takes .textList := by
  intro c c' items h
  obtain ⟨n, c₁, hn, h⟩ := EStateM.bind_eq_ok_iff.mp h
  obtain ⟨rfl, hitems⟩ := takes_text.times h
  exact (takes_count hn).append hitems

end Reader

end TrafficControl
