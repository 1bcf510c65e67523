import TrafficControl.Proofs.Bytes.Strides
import TrafficControl.Proofs.Protocol.Expecting

/-!
# Keeping the place

A byte string is read item by item: bytes, numbers, texts, values, commands. Every item is read in strides
(`Item.exists_walk`), values with the compounds in them included, so reading never leaves the byte string,
whichever items are read and whether or not earlier ones could be read (`Item.afterAll_stands`).

* `Item`: what can be read.
* `reading_keeps_place`: where reading an item ends, what its result follows from, and what is reported if
  bytes are lacking.
-/

namespace TrafficControl

namespace Reader

variable {α β : Type}

/-! ### Readers that go in strides -/

/-- Where fewer bytes than this are left, a reader goes over them in strides. -/
def WalksBelow (bound : Nat) (r : Reader α) : Prop :=
  ∀ c, c.remaining < bound → ∃ strides, r.Walks c strides (r c)

namespace WalksBelow

variable {bound : Nat}

theorem bind {r : Reader α} {f : α → Reader β} (hr : r.WalksBelow bound)
    (hf : ∀ a, (f a).WalksBelow bound) : (r >>= f).WalksBelow bound := by
  intro c hc
  obtain ⟨strides, h⟩ := hr c hc
  refine h.bind fun a c₁ hend => hf a c₁ ?_
  rw [hend] at h
  exact Nat.lt_of_le_of_lt h.remaining_le hc

theorem compositional (bound : Nat) : Compositional fun _ r _ => r.WalksBelow bound where
  pure a c _ := ⟨_, .done a c⟩
  throw h c _ := ⟨_, .refused h.ne_underflow c⟩
  bind := bind
  take n c _ := ⟨_, .of_take n c⟩
  byte c _ := ⟨_, .of_byte c⟩

/-- An element of a compound is read where a byte less is left, as the tag was taken before it. -/
theorem value (bound : Nat) : Value.read.WalksBelow bound := by
  induction bound with
  | zero => exact fun c hc => absurd hc (Nat.not_lt_zero _)
  | succ bound ih =>
    intro c hc
    have hparts : ∀ t, (Value.readParts Value.read t).WalksBelow bound :=
      (compositional bound).readParts_self ih
    obtain ⟨strides, htag⟩ := (compositional (bound + 1)).valueType c hc
    rw [Value.read_eq]
    refine htag.bind fun t c₁ ht => hparts t c₁ ?_
    exact Nat.lt_of_lt_of_le (Value.valueType_shrinks ht) (Nat.le_of_lt_succ hc)

theorem valueOf (bound : Nat) (t : ValueType) : (Value.readExpecting t).WalksBelow bound := by
  have hall := compositional bound
  rw [Value.readExpecting_eq]
  refine bind hall.byte fun tag => ?_
  split
  · exact hall.readParts_self (value bound) t
  · exact hall.throw trivial

end WalksBelow

/-! ### Items -/

/-- What can be read. -/
inductive Item where
  | ubyte
  | byte
  | int
  | uint
  | float
  | double
  | bytes (n : Nat)
  | count
  | text
  | textList
  | value
  | valueOf (t : ValueType)
  | command
  deriving DecidableEq, Repr

namespace Item

/-- What reading an item gives. -/
def Result : Item → Type
  | ubyte => UInt8
  | byte => Int8
  | int => Int32
  | uint => UInt32
  | float => Binary32
  | double => Binary64
  | bytes _ => Bytes
  | count => Nat
  | text => String
  | textList => List String
  | value => Value
  | valueOf _ => Value
  | command => Command

def reader : (i : Item) → Reader i.Result
  | ubyte => Reader.byte
  | byte => Reader.int8
  | int => Reader.int32
  | uint => Reader.uint32
  | float => Reader.binary32
  | double => Reader.binary64
  | bytes n => Reader.take n
  | count => Reader.count
  | text => Reader.text
  | textList => Reader.textList
  | value => Value.read
  | valueOf t => Value.readExpecting t
  | command => Command.read

/-- The bytes that an item of a fixed width takes. -/
def width? : Item → Option Nat
  | ubyte | byte => some 1
  | int | uint | float | count => some 4
  | double => some 8
  | bytes n => some n
  | text | textList | value | valueOf _ | command => none

/-- Where reading an item ends, whether or not it can be read. -/
def after (i : Item) (c : Cursor) : Cursor := (i.reader c).final

/-- Where reading items ends, each from where the one before it ended. -/
def afterAll (items : List Item) (c : Cursor) : Cursor := items.foldl (fun c i => i.after c) c

/-- An item is read in strides. -/
theorem exists_walk (i : Item) (c : Cursor) : ∃ strides, i.reader.Walks c strides (i.reader c) := by
  have hall := WalksBelow.compositional (c.remaining + 1)
  have hc := Nat.lt_succ_self c.remaining
  cases i with
  | ubyte => exact hall.byte c hc
  | byte => exact hall.int8 c hc
  | int => exact hall.int32 c hc
  | uint => exact hall.uint32 c hc
  | float => exact hall.binary32 c hc
  | double => exact hall.binary64 c hc
  | bytes n => exact hall.take n c hc
  | count => exact hall.count c hc
  | text => exact hall.text c hc
  | textList => exact hall.textList c hc
  | value => exact WalksBelow.value _ c hc
  | valueOf t => exact WalksBelow.valueOf _ t c hc
  | command => exact hall.command c hc

/-- An item of a fixed width is one stride. -/
theorem walks_of_width {i : Item} {n : Nat} (h : i.width? = some n) (c : Cursor) :
    i.reader.Walks c [⟨c.pos, n⟩] (i.reader c) := by
  cases i with
  | ubyte => cases h; exact .of_byte c
  | byte => cases h; exact (Walks.of_byte c).map _
  | int => cases h; exact .of_int32 c
  | uint => cases h; exact (Walks.of_word 4 c).map _
  | float => cases h; exact ((Walks.of_word 4 c).map _).map _
  | double => cases h; exact (Walks.of_word 8 c).map _
  | bytes n => cases h; exact .of_take n c
  | count => cases h; exact .of_count c
  | text | textList | value | valueOf | command => cases h

variable {data : Bytes} {c : Cursor}

theorem after_stands (i : Item) (hc : c.StandsIn data) : (i.after c).StandsIn data := by
  obtain ⟨strides, h⟩ := i.exists_walk c
  exact h.stands hc

theorem pos_le_after (i : Item) (c : Cursor) : c.pos ≤ (i.after c).pos := by
  obtain ⟨strides, h⟩ := i.exists_walk c
  exact h.pos_le

/-- Whatever items are read, and whether or not they can be read, reading stays in the byte string. -/
theorem afterAll_stands (items : List Item) (hc : c.StandsIn data) :
    (afterAll items c).StandsIn data := by
  induction items generalizing c with
  | nil => exact hc
  | cons i items ih => exact ih (i.after_stands hc)

end Item

end Reader

/-- A command that could be taken has the byte that says what it is. -/
theorem Command.body_ne_nil {c c₁ c₂ : Cursor} {n : Nat} {body : Bytes}
    (hlength : readLength c = .ok n c₁) (hbody : Reader.take n c₁ = .ok body c₂) : body ≠ [] := by
  obtain ⟨form, hpos, -, -⟩ := passes_readLength hlength
  rw [← Reader.length_of_take hbody] at hpos
  exact List.length_pos_iff.mp hpos

open Reader

/-- Reading items from the start of a byte string, `i` after those `before` it, whether or not these could
be read. The cursor is always a place in the byte string and never moves back. `i` is read in strides, in one
if it is of a fixed width. A stride starts in the byte string, is over bytes that are there, and is followed
by the next one where it ends; the only one that needs more bytes than there are is the last one, and it is
what lacks bytes: the failure tells what this stride needed and what was left where it started, and there the
cursor stays. The result of `i` follows from the bytes that were taken, wherever they stand and whatever
follows them, and from no fewer. A command that is taken has at least the byte that says what it is. -/
theorem reading_keeps_place (data : Bytes) (before : List Item) (i : Item) :
    let c := Item.afterAll before ⟨data, 0⟩
    let c' := i.after c
    (c = .into data c.pos ∧ c' = .into data c'.pos ∧ c.pos ≤ c'.pos ∧ c'.pos ≤ data.length) ∧
    (∃ strides, i.reader.Walks c strides (i.reader c)) ∧
    (∀ n, i.width? = some n → i.reader.Walks c [⟨c.pos, n⟩] (i.reader c)) ∧
    (∀ strides result, i.reader.Walks c strides result → result = i.reader c ∧
      (∀ s ∈ strides, c.pos ≤ s.start ∧ s.start ≤ data.length ∧
        (s.start + s.needed ≤ c'.pos ∨ data.length < s.start + s.needed ∧
          result = .error (.underflow s.needed (data.length - s.start)) (.into data s.start))) ∧
      ∀ needed remaining, result = .error (.underflow needed remaining) c' ↔
        strides.getLast? = some ⟨c'.pos, needed⟩ ∧ remaining = data.length - c'.pos ∧
          remaining < needed) ∧
    (∀ a, i.reader c = .ok a c' → ∃ taken,
      data.drop c.pos = taken ++ data.drop c'.pos ∧ c'.pos = c.pos + taken.length ∧
      (∀ front back, i.reader (.into (front ++ taken ++ back) front.length) =
        .ok a (.into (front ++ taken ++ back) (front.length + taken.length))) ∧
      ∀ part, part <+: taken → part ≠ taken → ∀ front, ∃ needed remaining d, remaining < needed ∧
        i.reader (.into (front ++ part) front.length) = .error (.underflow needed remaining) d) ∧
    ∀ d n d₁ body d₂, Command.readLength d = .ok n d₁ → take n d₁ = .ok body d₂ → body ≠ [] := by
  intro c c'
  have hc : c.StandsIn data := Item.afterAll_stands before (.start data)
  have hc' : c'.StandsIn data := i.after_stands hc
  refine ⟨⟨hc.eq_into, hc'.eq_into, i.pos_le_after c, hc'.pos_le⟩, i.exists_walk c, ?_, ?_, ?_, ?_⟩
  · exact fun n hwidth => Item.walks_of_width hwidth c
  · intro strides result hwalk
    obtain rfl := hwalk.eq
    exact ⟨rfl, fun s hs => hwalk.stride_in hc hs, fun needed remaining => hwalk.underflow_iff hc⟩
  · intro a h
    obtain ⟨strides, hwalk⟩ := i.exists_walk c
    obtain ⟨taken, hpass, hdecodes⟩ := (h ▸ hwalk).decodes
    refine ⟨taken, ?_, hpass.pos_eq, hdecodes.anywhere, ?_⟩
    · rw [← hc.rest_eq, ← hc'.rest_eq]
      exact hpass.rest_eq
    · intro part hpart hne front
      obtain ⟨needed, remaining, d, hlt, hlacks⟩ := hdecodes.lacks hpart hne front.length
      rw [Cursor.into_append]
      exact ⟨needed, remaining, d, hlt, hlacks⟩
  · exact fun _ _ _ _ _ hlength hbody => Command.body_ne_nil hlength hbody

/-- A tag of no kind, and a compound of two whose second element lacks two of its four bytes. -/
def mishaps : Bytes := [0x42, 0x0f, 0, 0, 0, 2, 0x07, 5, 0x09, 0, 0x7f]

theorem reading_goes_on_after_mishaps :
    (∃ strides, Item.value.reader.Walks ⟨mishaps.drop 1, 1⟩ strides
        (.error (.underflow 4 2) ⟨mishaps.drop 9, 9⟩) ∧
      strides.getLast? = some ⟨9, 4⟩ ∧ (⟨9, 4⟩ : Stride) ∈ strides ∧ 11 < 9 + 4) ∧
    (Item.bytes 2).reader.Walks ⟨mishaps.drop 9, 9⟩ [⟨9, 2⟩] (.ok [0, 0x7f] ⟨[], 11⟩) ∧
    (∀ front back, (Item.bytes 2).reader (.into (front ++ [0, 0x7f] ++ back) front.length) =
      .ok [0, 0x7f] (.into (front ++ [0, 0x7f] ++ back) (front.length + 2))) ∧
    (∃ needed remaining d, remaining < needed ∧
      (Item.bytes 2).reader (.into ([7] ++ [0]) 1) = .error (.underflow needed remaining) d) ∧
    [Code.close] ≠ [] := by
  obtain ⟨-, ⟨strides, hwalk⟩, -, hstrides, -⟩ := reading_keeps_place mishaps [.value] .value
  obtain ⟨-, -, hwidth, -, htaken, hbody⟩ := reading_keeps_place mishaps [.value, .value] (.bytes 2)
  obtain ⟨-, hplaced, hlacking⟩ := hstrides strides _ hwalk
  obtain ⟨hlast, -⟩ := (hlacking 4 2).mp rfl
  have hmem : (⟨9, 4⟩ : Stride) ∈ strides := List.mem_of_getLast? hlast
  obtain ⟨taken, hrest, -, hanywhere, hlacks⟩ := htaken [0, 0x7f] rfl
  obtain rfl : [0, 0x7f] = taken := hrest.trans (List.append_nil taken)
  refine ⟨⟨strides, hwalk, hlast, hmem, ?_⟩, hwidth 2 rfl, hanywhere, ?_, ?_⟩
  · rcases (hplaced _ hmem).2.2 with hpassed | ⟨hbeyond, -⟩
    · exact absurd (show 9 + 4 ≤ 9 from hpassed) (by decide)
    · exact hbeyond
  · exact hlacks [0] (by decide) (by decide) [7]
  · exact hbody ⟨[2, Code.close], 0⟩ 1 ⟨[Code.close], 1⟩ [Code.close] ⟨[], 2⟩ rfl rfl

end TrafficControl
