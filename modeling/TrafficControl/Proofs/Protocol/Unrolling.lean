import TrafficControl.Proofs.Bytes.Shrinking
import TrafficControl.Proofs.Protocol.Compositional
import TrafficControl.Proofs.Protocol.MessageTakes
import TrafficControl.Proofs.Protocol.ValueTakes

/-!
# Reading comes to an end

The reader of values calls itself for the elements of a compound, whose number stands in the bytes. It is
the solution of that recursion (`Value.read_eq`), and one level for each byte that is left and one more
are enough: what a deeper level would do is never asked for (`Value.read_eq_levels`). In the same way the
loop over a frame ends after no more rounds than the frame has bytes (`Frame.decode_eq_rounds`).
-/

namespace TrafficControl

open Reader

variable {α β : Type}

/-- Where at most `n` bytes are left two readers do the same, and the first gives no byte back. -/
structure Reader.SameWithin (n : Nat) (r r' : Reader α) : Prop where
  eq {c : Cursor} (hc : c.remaining ≤ n) : r c = r' c
  le {c c' : Cursor} {a : α} (h : r c = .ok a c') : c'.remaining ≤ c.remaining

namespace Reader.SameWithin

variable {n : Nat}

theorem of_takes {r : Reader α} {write : α → Emission} (hr : r.Takes write) : SameWithin n r r :=
  ⟨fun _ => rfl, fun h => (hr h).remaining_le⟩

theorem bind {r r' : Reader α} {f f' : α → Reader β} (hr : SameWithin n r r')
    (hf : ∀ a, SameWithin n (f a) (f' a)) : SameWithin n (r >>= f) (r' >>= f') where
  eq {c} hc := by
    have hsame := hr.eq hc
    rcases ha : r c with ⟨a, c₁⟩ | ⟨e, c₁⟩
    · rw [EStateM.bind_of_ok ha, EStateM.bind_of_ok (hsame ▸ ha)]
      exact (hf a).eq (Nat.le_trans (hr.le ha) hc)
    · rw [EStateM.bind_of_error ha, EStateM.bind_of_error (hsame ▸ ha)]
  le h := by
    obtain ⟨a, c₁, ha, h⟩ := EStateM.bind_eq_ok_iff.mp h
    exact Nat.le_trans ((hf a).le h) (hr.le ha)

theorem compositional (n : Nat) : Compositional fun _ r r' => SameWithin n r r' where
  pure _ := ⟨fun _ => rfl, fun h => by cases h; exact Nat.le_refl _⟩
  throw _ := ⟨fun _ => rfl, fun h => by cases h⟩
  bind := bind
  take n := of_takes (takes_take n)
  byte := of_takes takes_byte

end Reader.SameWithin

/-! ### Values -/

namespace Value

/-- One level of reading a value: `inner` reads the elements of a compound. -/
def readLevel (inner : Reader Value) : Reader Value := do
  let t ← Reader.valueType
  readParts inner t

theorem valueType_shrinks : Reader.valueType.Shrinks :=
  takes_valueType.shrinks fun _ _ => List.cons_ne_nil _ _

theorem read_shrinks : read.Shrinks := by
  refine takes_read.shrinks fun v _ => List.length_pos_iff.mp ?_
  rw [length_emit]
  exact Nat.succ_pos _

/-- A level takes a tag, so the levels below have a byte less to agree on. -/
theorem readLevel_same {n : Nat} {inner inner' : Reader Value} (h : SameWithin n inner inner') :
    SameWithin (n + 1) (readLevel inner) (readLevel inner') where
  eq {c} hc := by
    unfold readLevel
    rcases ht : Reader.valueType c with ⟨t, c₁⟩ | ⟨e, c₁⟩
    · have hless := valueType_shrinks ht
      rw [EStateM.bind_of_ok ht, EStateM.bind_of_ok ht]
      exact ((SameWithin.compositional n).readParts h t).eq (by omega)
    · rw [EStateM.bind_of_error ht, EStateM.bind_of_error ht]
  le hread :=
    have hall := SameWithin.compositional n
    (hall.bind hall.valueType fun t => hall.readParts h t).le hread

theorem readWithin_of_nil (n pos : Nat) :
    readWithin n ⟨[], pos⟩ = .error (.underflow 1 0) ⟨[], pos⟩ := by
  cases n <;> rfl

/-- Any two bounds that cover the bytes left are as good as each other. -/
theorem readWithin_same {k n m : Nat} (hn : k ≤ n) (hm : k ≤ m) :
    SameWithin k (readWithin n) (readWithin m) := by
  induction k generalizing n m with
  | zero =>
    refine ⟨fun {c} hc => ?_, fun h => (takes_within n h).remaining_le⟩
    obtain ⟨rest, pos⟩ := c
    obtain rfl := List.length_eq_zero_iff.mp (Nat.le_zero.mp hc)
    rw [readWithin_of_nil, readWithin_of_nil]
  | succ k ih =>
    obtain ⟨n, rfl⟩ : ∃ i, n = i + 1 := ⟨n - 1, by omega⟩
    obtain ⟨m, rfl⟩ : ∃ i, m = i + 1 := ⟨m - 1, by omega⟩
    exact readLevel_same (ih (Nat.le_of_succ_le_succ hn) (Nat.le_of_succ_le_succ hm))

theorem readWithin_same_read (n : Nat) : SameWithin n (readWithin n) read where
  eq hc := (readWithin_same hc (Nat.le_refl _)).eq (Nat.le_refl _)
  le h := (takes_within n h).remaining_le

/-- The elements of a compound are read as the compound is. -/
theorem read_eq : read = readLevel read := by
  funext c
  show readWithin c.remaining c = readLevel read c
  rcases hn : c.remaining with _ | n
  · obtain ⟨rest, pos⟩ := c
    obtain rfl := List.length_eq_zero_iff.mp hn
    rfl
  · exact (readLevel_same (readWithin_same_read n)).eq (Nat.le_of_eq hn)

/-- No value is nested more deeply than there are bytes: one level for each byte that is left and one
more are enough, and `inner` is never come to. -/
theorem read_eq_levels (inner : Reader Value) (c : Cursor) :
    read c = Nat.repeat readLevel (c.remaining + 1) inner c := by
  have hsame : ∀ n, SameWithin n read (Nat.repeat readLevel (n + 1) inner) := by
    intro n
    induction n with
    | zero =>
      refine ⟨fun {c} hc => ?_, fun h => (takes_read h).remaining_le⟩
      obtain ⟨rest, pos⟩ := c
      obtain rfl := List.length_eq_zero_iff.mp (Nat.le_zero.mp hc)
      rfl
    | succ n ih =>
      have hlevel := readLevel_same ih
      rwa [← read_eq] at hlevel
  exact (hsame _).eq (Nat.le_refl _)

end Value

/-! ### Frames -/

theorem Command.read_shrinks : Command.read.Shrinks :=
  spelled_read.shrinks fun s _ => s.bytes_ne_nil

theorem Status.read_shrinks : Status.read.Shrinks :=
  spelled_read.shrinks fun s _ => s.command.bytes_ne_nil

theorem Container.read_shrinks : Container.read.Shrinks :=
  spelled_read.shrinks fun s _ => s.bytes_ne_nil

namespace Frame

/-- What is read from a frame after its length. -/
def decodeBy (items : Reader (List α)) (bytes : Bytes) : Except FrameError (List α) :=
  let reader : Reader (List α) := do
    openLength bytes.length
    items
  match reader ⟨bytes, 0⟩ with
  | .ok items _ => .ok items
  | .error e _ => .error e

/-- A frame that is opened is read on behind its length. -/
theorem openLength_eq_ok {bytes : Bytes} {n : Nat} {u : Unit} {c : Cursor}
    (h : openLength n ⟨bytes, 0⟩ = .ok u c) : c = ⟨bytes.drop 4, 4⟩ := by
  obtain ⟨declared, c₁, hdeclared, h⟩ := EStateM.bind_eq_ok_iff.mp h
  obtain ⟨front, hfront, -⟩ := EStateM.map_eq_ok_iff.mp hdeclared
  obtain ⟨-, -, rfl⟩ := take_eq_ok_iff.mp hfront
  split at h
  · cases h
    rfl
  · cases h

/-- The loop over a frame ends after no more rounds than the frame has bytes, and one to see that it is
at its end; `again` is never come to. -/
theorem decode_eq_rounds {item : Reader α} (hitem : item.Shrinks)
    (again : List α → Reader (List α)) (bytes : Bytes) :
    decode item bytes = decodeBy (Nat.repeat (turn item) (bytes.length + 1) again []) bytes := by
  show decodeBy (untilEnd item) bytes = _
  unfold decodeBy
  dsimp only
  rcases hopen : openLength bytes.length ⟨bytes, 0⟩ with ⟨u, c⟩ | ⟨e, c⟩
  · have hc := openLength_eq_ok hopen
    have hle : c.remaining ≤ bytes.length := by
      rw [hc, Cursor.remaining, List.length_drop]
      exact Nat.sub_le _ _
    rw [EStateM.bind_of_ok hopen, EStateM.bind_of_ok hopen, untilEnd,
      EStateM.bind_of_ok (x := MonadState.get) rfl, untilEndOnto_eq_rounds hitem (Nat.le_refl _) hle again]
  · rw [EStateM.bind_of_error hopen, EStateM.bind_of_error hopen]

end Frame

end TrafficControl
