import TrafficControl.Proofs.Protocol.Compositional
import TrafficControl.Proofs.Protocol.ValueTakes

/-!
# A value that was cut off is missed

More bytes at the end change nothing for a reader that has found what it needs, nor for one that has found
something wrong. Only a reader that lacks bytes may go on in another way (`Reader.ExtendsTo`). This is
respected by everything readers are built from, so a reader that takes all of its bytes lacks some of them
as soon as they are cut off, wherever the cut goes (`Reader.ExtendsTo.lacks_of_cut`): through a tag, a
count, a number or a character, or between two elements.
-/

namespace TrafficControl

/-- A primitive needed more bytes than were left. -/
def FrameError.Lacking (e : FrameError) : Prop :=
  ∃ needed remaining, remaining < needed ∧ e = .underflow needed remaining

/-- More bytes at the end of those not yet read. -/
def Cursor.extend (c : Cursor) (more : Bytes) : Cursor := ⟨c.rest ++ more, c.pos⟩

theorem Cursor.remaining_le_extend (c : Cursor) (more : Bytes) :
    c.remaining ≤ (c.extend more).remaining := by
  unfold remaining extend
  rw [List.length_append]
  exact Nat.le_add_right _ _

namespace Reader

variable {α β : Type}

/-- With more bytes at the end `r'` does what `r` does without them, unless `r` lacks bytes. -/
structure ExtendsTo (r r' : Reader α) : Prop where
  ok {c c' : Cursor} {a : α} (h : r c = .ok a c') (more : Bytes) :
    r' (c.extend more) = .ok a (c'.extend more)
  error {c c' : Cursor} {e : FrameError} (h : r c = .error e c') (he : ¬ e.Lacking) (more : Bytes) :
    r' (c.extend more) = .error e (c'.extend more)

namespace ExtendsTo

theorem pure (a : α) : (Pure.pure a : Reader α).ExtendsTo (Pure.pure a) where
  ok h more := by
    cases h
    rfl
  error h := by cases h

theorem throw (e : FrameError) :
    (MonadExcept.throw e : Reader α).ExtendsTo (MonadExcept.throw e) where
  ok h := by cases h
  error h he more := by
    cases h
    rfl

theorem bind {r r' : Reader α} {f f' : α → Reader β} (hr : r.ExtendsTo r')
    (hf : ∀ a, (f a).ExtendsTo (f' a)) : (r >>= f).ExtendsTo (r' >>= f') where
  ok h more := by
    obtain ⟨a, c₁, ha, h⟩ := EStateM.bind_eq_ok_iff.mp h
    rw [EStateM.bind_of_ok (hr.ok ha more)]
    exact (hf a).ok h more
  error h he more := by
    rcases EStateM.bind_eq_error_iff.mp h with h | ⟨a, c₁, ha, h⟩
    · exact EStateM.bind_of_error (hr.error h he more)
    · rw [EStateM.bind_of_ok (hr.ok ha more)]
      exact (hf a).error h he more

theorem take (n : Nat) : (Reader.take n).ExtendsTo (Reader.take n) where
  ok h more := by
    obtain ⟨hle, rfl, rfl⟩ := take_eq_ok_iff.mp h
    refine take_eq_ok_iff.mpr ⟨?_, ?_, ?_⟩
    · show n ≤ (_ ++ more).length
      rw [List.length_append]
      exact Nat.le_add_right_of_le hle
    · exact (List.take_append_of_le_length hle).symm
    · unfold Cursor.extend
      rw [List.drop_append_of_le_length hle]
  error h he := by
    obtain ⟨hlt, rfl, rfl⟩ := take_eq_error_iff.mp h
    exact absurd ⟨n, _, hlt, rfl⟩ he

theorem byte : Reader.byte.ExtendsTo Reader.byte where
  ok {c c' b} h more := by
    obtain ⟨rest, pos⟩ := c
    cases rest with
    | nil => cases h
    | cons b' rest =>
      cases h
      rfl
  error h he := by
    obtain ⟨-, rfl, -⟩ := byte_eq_error_iff.mp h
    exact absurd ⟨1, 0, Nat.one_pos, rfl⟩ he

theorem compositional : Compositional fun _ r r' => r.ExtendsTo r' where
  pure := pure
  throw _ := throw _
  bind := bind
  take := take
  byte := byte

/-- Where no tag is left, more bytes may lead anywhere. -/
theorem exhausted (r : Reader α) : (MonadExcept.throw (.underflow 1 0) : Reader α).ExtendsTo r where
  ok h := by cases h
  error h he := by
    cases h
    exact absurd ⟨1, 0, Nat.one_pos, rfl⟩ he

/-- A bound that grows with the bytes left does no harm. -/
theorem bounded {f : Nat → Reader α} (hf : ∀ {n m : Nat}, n ≤ m → (f n).ExtendsTo (f m)) :
    (do let c ← get; f c.remaining : Reader α).ExtendsTo (do let c ← get; f c.remaining) where
  ok {c _ _} h more := (hf (c.remaining_le_extend more)).ok h more
  error {c _ _} h he more := (hf (c.remaining_le_extend more)).error h he more

/-- If all of the bytes are taken, some are lacking once they are cut off. -/
theorem lacks_of_cut {r r' : Reader α} (h : r.ExtendsTo r') {front more : Bytes} (hmore : more ≠ [])
    {pos pos' : Nat} {a : α} (hall : r' ⟨front ++ more, pos⟩ = .ok a ⟨[], pos'⟩) :
    ∃ needed remaining c, remaining < needed ∧ r ⟨front, pos⟩ = .error (.underflow needed remaining) c := by
  rcases hr : r ⟨front, pos⟩ with ⟨a', c⟩ | ⟨e, c⟩
  · have hsame := (h.ok hr more).symm.trans hall
    injection hsame with ha hc
    exact absurd (List.append_eq_nil_iff.mp (congrArg Cursor.rest hc)).2 hmore
  · by_cases he : e.Lacking
    · obtain ⟨needed, remaining, hlt, rfl⟩ := he
      exact ⟨needed, remaining, c, hlt, rfl⟩
    · cases (h.error hr he more).symm.trans hall

end ExtendsTo

end Reader

/-! ### Values -/

namespace Value

theorem readWithin_extendsTo {n m : Nat} (h : n ≤ m) : (readWithin n).ExtendsTo (readWithin m) :=
  Reader.ExtendsTo.compositional.readWithin .exhausted h

theorem read_extendsTo : read.ExtendsTo read := .bounded readWithin_extendsTo

theorem readExpecting_extendsTo (t : ValueType) : (readExpecting t).ExtendsTo (readExpecting t) := by
  have hall := Reader.ExtendsTo.compositional
  refine hall.bind hall.byte fun tag => ?_
  split
  · exact .bounded fun hle => hall.readParts (readWithin_extendsTo hle) t
  · exact .throw _

/-- Whatever is cut off from the end of the bytes of a value, reading the rest lacks bytes, and reports
nothing else; so what is left is not the bytes of another value. -/
theorem lacks_of_encode {v : Value} {bytes front : Bytes} (h : v.encode = .ok bytes)
    (hfront : front <+: bytes) (hne : front ≠ bytes) :
    (∀ pos, ∃ needed remaining c, remaining < needed ∧
      read ⟨front, pos⟩ = .error (.underflow needed remaining) c) ∧
    (∀ pos, ∃ needed remaining c, remaining < needed ∧
      readExpecting v.type ⟨front, pos⟩ = .error (.underflow needed remaining) c) ∧
    ∀ w : Value, w.encode ≠ .ok front := by
  obtain ⟨more, rfl⟩ := hfront
  have hmore : more ≠ [] := fun hnil => hne (by rw [hnil, List.append_nil])
  obtain ⟨hs, hbytes⟩ := Emission.result_eq_ok_iff.mp h
  have hread := reads_read v hs []
  have hexpecting := reads_readExpecting v hs []
  rw [hbytes, List.append_nil] at hread hexpecting
  refine ⟨?_, ?_, ?_⟩
  · exact fun pos => read_extendsTo.lacks_of_cut hmore (hread pos)
  · exact fun pos => (readExpecting_extendsTo _).lacks_of_cut hmore (hexpecting pos)
  · intro w hw
    obtain ⟨needed, remaining, c, -, hlacks⟩ := read_extendsTo.lacks_of_cut hmore (hread 0)
    have hwhole := (read_eq_ok_iff_encode w ⟨front, 0⟩ ⟨[], 0 + front.length⟩).mpr
      ⟨front, hw, (List.append_nil front).symm, rfl⟩
    rw [hlacks] at hwhole
    cases hwhole

/-- A value with a character of two bytes below a count. -/
def greeting : Value := .compound [.text "é", .compound [.int 7]]

/-- What is left of it if the cut goes through the character. -/
def greetingFront : Bytes := [0x0f, 0, 0, 0, 2, 0x0c, 0, 0, 0, 2, 0xc3]

theorem greeting_lacks :
    (∃ needed remaining c, remaining < needed ∧
      read ⟨greetingFront, 5⟩ = .error (.underflow needed remaining) c) ∧
    (∃ needed remaining c, remaining < needed ∧
      readExpecting .compound ⟨greetingFront, 5⟩ = .error (.underflow needed remaining) c) ∧
    ∀ w : Value, w.encode ≠ .ok greetingFront := by
  obtain ⟨bytes, hencode, hfront, hne⟩ : ∃ bytes, greeting.encode = .ok bytes ∧
      greetingFront <+: bytes ∧ greetingFront ≠ bytes := ⟨_, rfl, by decide, by decide⟩
  obtain ⟨hread, hexpecting, hothers⟩ := lacks_of_encode hencode hfront hne
  exact ⟨hread 5, hexpecting 5, hothers⟩

end Value

end TrafficControl
