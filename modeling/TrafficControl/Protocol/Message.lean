import TrafficControl.Protocol.Code
import TrafficControl.Protocol.Command

/-!
# Messages

A message is framed by a length of four bytes that counts itself. A request is a sequence of
commands. A response is a sequence of containers: each starts with a status, and what follows the
status depends on the command that the status answers.
-/

namespace TrafficControl

namespace Frame

/-- Frames a message body. -/
def close (body : Emission) : Except FrameError Bytes := do
  let bytes ← body.result
  let total := 4 + bytes.length
  if total < UInt32.size then pure (Word.bytes 4 total ++ bytes) else throw (.frameTooLarge total)

/-- Takes the length of a frame, which must be that of all the bytes at hand. -/
def openLength (actual : Nat) : Reader Unit := do
  let declared ← Reader.word 4
  if declared = actual then pure () else throw (.lengthMismatch declared actual)

/-- Reads the items that fill a frame. -/
def decode {α : Type} (item : Reader α) (bytes : Bytes) : Except FrameError (List α) :=
  let reader : Reader (List α) := do
    openLength bytes.length
    Reader.untilEnd item
  match reader ⟨bytes, 0⟩ with
  | .ok items _ => .ok items
  | .error e _ => .error e

end Frame

namespace Request

/-- The frame of a sequence of commands. -/
def encode (commands : List Command) : Except FrameError Bytes :=
  Frame.close (.concat (commands.map Command.emit))

/-- The commands in a frame. -/
def decode (bytes : Bytes) : Except FrameError (List Command) :=
  Frame.decode Command.read bytes

end Request

/-- The status that leads a container. -/
structure Status where
  /-- The command that is answered. -/
  command : UInt8
  result : UInt8
  description : String := ""
  deriving DecidableEq, Repr, Inhabited

namespace Status

def isOk (s : Status) : Bool := s.result == Code.accepted

def emit (s : Status) : Emission :=
  let payload : Emission := .byte s.result ++ .text s.description
  match payload.result with
  | .ok bytes => Command.emit ⟨s.command, bytes⟩
  | .error e => .stop e

/-- Takes a status. Bytes behind its description are ignored. -/
def read : Reader Status := do
  let c ← Command.read
  let fields : Reader (UInt8 × String) := do
    let result ← Reader.byte
    let description ← Reader.text
    pure (result, description)
  match fields c.cursor with
  | .ok (result, description) _ => pure ⟨c.id, result, description⟩
  | .error e _ => throw e

end Status

/-- What follows a status. -/
inductive Reply where
  | bare
  | single (answer : Command)
  | several (answers : List Command)
  deriving DecidableEq, Repr, Inhabited

/-- A status and what the answered command returns. -/
structure Container where
  status : Status
  reply : Reply := .bare
  deriving DecidableEq, Repr, Inhabited

namespace Container

def emit (c : Container) : Emission :=
  c.status.emit ++
    match c.reply with
    | .bare => {}
    | .single answer => answer.emit
    | .several answers => .count answers.length ++ .concat (answers.map Command.emit)

/-- Takes what follows a status: nothing after a refusal or where the command returns nothing, a
counted list after a step, and one answer otherwise. -/
def readReply (s : Status) : Reader Reply :=
  if !s.isOk || Code.isStatusOnly s.command then pure .bare
  else if s.command = Code.simulationStep then do
    let n ← Reader.count
    .several <$> Reader.times Command.read n
  else .single <$> Command.read

def read : Reader Container := do
  let status ← Status.read
  let reply ← readReply status
  pure ⟨status, reply⟩

/-- The single answer of a container. -/
def answer? (c : Container) : Option Command :=
  match c.reply with
  | .single answer => some answer
  | _ => none

/-- The list of answers of a container. -/
def answers? (c : Container) : Option (List Command) :=
  match c.reply with
  | .several answers => some answers
  | _ => none

end Container

namespace Response

/-- The frame of a sequence of containers. -/
def encode (containers : List Container) : Except FrameError Bytes :=
  Frame.close (.concat (containers.map Container.emit))

/-- The containers in a frame. -/
def decode (bytes : Bytes) : Except FrameError (List Container) :=
  Frame.decode Container.read bytes

end Response

end TrafficControl
