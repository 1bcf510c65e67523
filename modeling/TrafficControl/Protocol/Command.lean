import TrafficControl.Bytes.Cursor
import TrafficControl.Bytes.Emission

/-!
# Commands

A command starts with its own length, which counts every byte of it. A command of at most 255 bytes
has a length of one byte; a longer one has a zero byte and then a length of four bytes. Both forms
are read whatever the length.
-/

namespace TrafficControl

/-- A command or an answer: what it is and what it carries. -/
structure Command where
  id : UInt8
  payload : Bytes := []
  deriving DecidableEq, Repr, Inhabited

namespace Command

/-- Whether the length does not fit one byte. -/
def isLong (c : Command) : Bool := 253 < c.payload.length

/-- The bytes a command takes. -/
def size (c : Command) : Nat :=
  (if c.isLong then 5 else 1) + 1 + c.payload.length

def emit (c : Command) : Emission :=
  let length : Emission :=
    if c.isLong then
      if c.size < UInt32.size then .byte 0 ++ .word 4 c.size else .stop (.frameTooLarge c.size)
    else .byte (UInt8.ofNat c.size)
  length ++ .byte c.id ++ .raw c.payload

/-- Takes the length of a command and gives the bytes that follow it. -/
def readLength : Reader Nat := do
  let short ← Reader.byte
  if short = 0 then
    let total ← Reader.word 4
    if total < 6 then throw (.malformedLength total) else pure (total - 5)
  else if short.toNat < 2 then throw (.malformedLength short.toNat)
  else pure (short.toNat - 1)

/-- Takes a command in either form. -/
def read : Reader Command := do
  let length ← readLength
  let body ← Reader.take length
  pure ⟨body.headD 0, body.tail⟩

/-- The payload of a command as something to read. -/
def cursor (c : Command) : Cursor := ⟨c.payload, 0⟩

end Command

end TrafficControl
