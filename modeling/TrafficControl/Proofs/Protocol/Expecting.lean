import TrafficControl.Proofs.Protocol.Unrolling

/-!
# Values of a kind that is asked for

A value can be read as whatever its tag announces, or as a value of a kind that is asked for. The first
way looks the tag up and then reads the parts of the kind it has found; the second way compares the tag
with that of its kind and looks nothing up. Both read the same parts in the same way, elements of compounds
included (`Value.readExpecting_eq`), so they can only differ in what they make of the tag.
-/

namespace TrafficControl

open Reader

namespace Value

variable {c c' : Cursor} {b : UInt8}

/-! ### Where a value starts -/

theorem byte_of_head (h : c.rest.head? = some b) :
    Reader.byte c = .ok b ⟨c.rest.tail, c.pos + 1⟩ := by
  obtain ⟨rest, pos⟩ := c
  obtain ⟨tail, rfl⟩ := List.head?_eq_some_iff.mp h
  rfl

theorem valueType_of_head {t : ValueType} (h : c.rest.head? = some t.tag) :
    Reader.valueType c = .ok t ⟨c.rest.tail, c.pos + 1⟩ := by
  rw [Reader.valueType, EStateM.bind_of_ok (byte_of_head h), ValueType.ofTag?_eq_some_iff.mpr rfl]
  rfl

/-- The first byte of what was passed over is the tag of the value. -/
theorem head_of_passes {v : Value} (h : c.Passes v.emit c') : c.rest.head? = some v.type.tag := by
  have hrest := h.rest_eq
  rw [emit_eq, Emission.append_bytes _ rfl] at hrest
  rw [hrest]
  rfl

/-! ### The two ways of reading -/

/-- The reader of values of a kind reads the elements of compounds as values of any kind. -/
theorem readExpecting_eq (t : ValueType) :
    readExpecting t = (do
      let tag ← Reader.byte
      if tag = t.tag then readParts read t else throw (.unexpectedType t.tag tag)) := by
  unfold readExpecting
  congr 1
  funext tag
  split
  · funext c
    have hsame := (SameWithin.compositional c.remaining).readParts (readWithin_same_read c.remaining) t
    exact hsame.eq (Nat.le_refl _)
  · rfl

/-- Behind a tag the parts of its kind are read. -/
theorem read_of_tag {t : ValueType} (h : c.rest.head? = some t.tag) :
    read c = readParts read t ⟨c.rest.tail, c.pos + 1⟩ :=
  calc read c = readLevel read c := congrFun read_eq c
    _ = readParts read t ⟨c.rest.tail, c.pos + 1⟩ := EStateM.bind_of_ok (valueType_of_head h)

/-- Where the tag is that of the kind asked for, the two ways of reading go on alike. -/
theorem readExpecting_of_tag {t : ValueType} (h : c.rest.head? = some t.tag) :
    readExpecting t c = read c := by
  rw [readExpecting_eq, EStateM.bind_of_ok (byte_of_head h), if_pos rfl, read_of_tag h]

/-- Another tag is refused, and nothing behind it is looked at. -/
theorem readExpecting_of_other_tag {t : ValueType} (h : c.rest.head? = some b) (hne : b ≠ t.tag) :
    readExpecting t c = .error (.unexpectedType t.tag b) ⟨c.rest.tail, c.pos + 1⟩ := by
  rw [readExpecting_eq, EStateM.bind_of_ok (byte_of_head h), if_neg hne]
  rfl

/-- Without a tag there is nothing to compare. -/
theorem readExpecting_of_nil {t : ValueType} (h : c.rest = []) : readExpecting t c = read c := by
  obtain ⟨rest, pos⟩ := c
  obtain rfl : rest = [] := h
  rfl

/-- Reading a value of a kind that is asked for and reading a value are one where the next byte is the tag
of that kind, and where there is no byte at all: they give the same value or the same failure, and leave
the same bytes. Any other byte is refused and is the only one taken, whatever follows it. A value that
is given either way is of the kind whose tag was read. -/
theorem readExpecting_agrees (t : ValueType) (c : Cursor) :
    (c.rest.head? = some t.tag ∨ c.rest = [] → readExpecting t c = read c) ∧
    (∀ b, c.rest.head? = some b → b ≠ t.tag →
      readExpecting t c = .error (.unexpectedType t.tag b) ⟨c.rest.tail, c.pos + 1⟩) ∧
    (∀ v c', read c = .ok v c' → c.rest.head? = some v.type.tag) ∧
    ∀ v c', readExpecting t c = .ok v c' → v.type = t ∧ c.rest.head? = some v.type.tag := by
  refine ⟨?_, ?_, ?_, ?_⟩
  · rintro (htag | hnil)
    · exact readExpecting_of_tag htag
    · exact readExpecting_of_nil hnil
  · intro b hb hne
    exact readExpecting_of_other_tag hb hne
  · intro v c' h
    exact head_of_passes (takes_read h)
  · intro v c' h
    obtain ⟨htype, hpass⟩ := takes_readExpecting h
    exact ⟨htype, head_of_passes hpass⟩

/-- A compound that holds a compound, behind other bytes and in front of others. -/
def embedded : Bytes := [0xff, 0x0f, 0, 0, 0, 1, 0x0f, 0, 0, 0, 1, 0x07, 5, 0xff]

theorem embedded_read_both_ways :
    readExpecting .compound ⟨embedded.drop 1, 1⟩ = read ⟨embedded.drop 1, 1⟩ ∧
    readExpecting .double ⟨embedded.drop 1, 1⟩ =
      .error (.unexpectedType 0x0b 0x0f) ⟨embedded.drop 2, 2⟩ ∧
    ∃ v, read ⟨embedded.drop 1, 1⟩ = .ok v ⟨[0xff], 13⟩ ∧
      readExpecting .compound ⟨embedded.drop 1, 1⟩ = .ok v ⟨[0xff], 13⟩ ∧
      v.type.tag = 0x0f ∧ v.type = .compound := by
  obtain ⟨halike, -, htag, hkind⟩ := readExpecting_agrees .compound ⟨embedded.drop 1, 1⟩
  obtain ⟨-, hother, -⟩ := readExpecting_agrees .double ⟨embedded.drop 1, 1⟩
  have hsame := halike (.inl rfl)
  have hread : read ⟨embedded.drop 1, 1⟩ = .ok (.compound [.compound [.ubyte 5]]) ⟨[0xff], 13⟩ := rfl
  refine ⟨hsame, hother 0x0f rfl (by decide), _, hread, hsame.trans hread, ?_, ?_⟩
  · exact (Option.some.inj (htag _ _ hread)).symm
  · exact (hkind _ _ (hsame.trans hread)).1

end Value

end TrafficControl
