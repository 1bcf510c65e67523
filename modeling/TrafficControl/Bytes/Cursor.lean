import TrafficControl.Bytes.Word
import TrafficControl.Number.Binary
import TrafficControl.Protocol.FrameError
import TrafficControl.Text.Utf8

/-!
# Reading bytes

A `Reader` takes what it needs from the front of a byte string. It keeps the cursor also when it
fails, so that a failure shows how far reading came: a primitive that lacks bytes leaves the cursor
where it stood. Counted lists are read by recursion on the count, and what fills the rest of a byte
string by recursion on the bytes left.
-/

namespace TrafficControl

/-- The bytes not yet read, and how many were read before them. -/
structure Cursor where
  rest : Bytes
  pos : Nat := 0
  deriving DecidableEq, Repr

/-- Bytes not yet read. -/
def Cursor.remaining (c : Cursor) : Nat := c.rest.length

/-- A step of reading: a result or a failure, and the cursor in either case. -/
abbrev Reader := EStateM FrameError Cursor

namespace Reader

/-- Takes exactly `n` bytes. -/
def take (n : Nat) : Reader Bytes := fun c =>
  let (front, back) := c.rest.splitAt n
  if front.length = n then .ok front ⟨back, c.pos + n⟩
  else .error (.underflow n c.remaining) c

/-- Takes one byte. -/
def byte : Reader UInt8 := fun c =>
  match c.rest with
  | b :: rest => .ok b ⟨rest, c.pos + 1⟩
  | [] => .error (.underflow 1 0) c

/-- Takes a number of `width` bytes. -/
def word (width : Nat) : Reader Nat :=
  Word.value <$> take width

def int8 : Reader Int8 := UInt8.toInt8 <$> byte

def uint32 : Reader UInt32 := UInt32.ofNat <$> word 4

def int32 : Reader Int32 := UInt32.toInt32 <$> uint32

def binary32 : Reader Binary32 := Binary32.mk <$> uint32

def binary64 : Reader Binary64 := (Binary64.mk ∘ UInt64.ofNat) <$> word 8

/-- Takes a count of elements, which is signed on the wire and must not be negative. -/
def count : Reader Nat := do
  let n ← int32
  if n < 0 then throw (.negativeCount n) else pure n.toInt.toNat

/-- Takes a counted text. -/
def text : Reader String := do
  let n ← count
  let bs ← take n
  match Utf8.text? bs with
  | some s => pure s
  | none => throw .invalidText

/-- Runs a reader `n` times, in front of the elements already read in reverse. -/
def timesOnto {α : Type} (r : Reader α) : Nat → List α → Reader (List α)
  | 0, done => pure done.reverse
  | n + 1, done => do
    let a ← r
    timesOnto r n (a :: done)

/-- Runs a reader `n` times. -/
def times {α : Type} (r : Reader α) (n : Nat) : Reader (List α) :=
  timesOnto r n []

/-- Takes a counted list of texts. -/
def textList : Reader (List String) := do
  let n ← count
  times text n

/-- Runs a reader until no byte is left, at most `fuel` times. -/
def untilEndOnto {α : Type} (r : Reader α) : Nat → List α → Reader (List α)
  | 0, done => pure done.reverse
  | fuel + 1, done => do
    let c ← get
    if c.rest.isEmpty then pure done.reverse
    else
      let a ← r
      untilEndOnto r fuel (a :: done)

/-- Runs a reader until no byte is left. A reader that takes at least one byte needs no more runs
than there are bytes. -/
def untilEnd {α : Type} (r : Reader α) : Reader (List α) := do
  let c ← get
  untilEndOnto r c.remaining []

end Reader

end TrafficControl
