import TrafficControl.Client.Action
import TrafficControl.Protocol.Codec

/-!
# Queries

A query sends commands and takes answers. Answers carry nothing that says whose they are: a query
knows its own by their place, and takes as many containers as it has sent commands, from where the
query before it stopped.

* `Query.requests`: the commands of a query, from what is remembered about it.
* `Query.consume`: takes the containers of a query and remembers what they say.
-/

namespace TrafficControl

/-! ## Kinds of query -/

/-- Reads one variable of one object, and remembers the answer until it is out of date. -/
structure ReadQuery where
  cell : Cell
  command : UInt8
  object : String
  /-- The variable. -/
  code : UInt8
  type : ValueType
  /-- Whether the request has to carry a parameter, such as a point in time. -/
  needsParameter : Bool := false
  deriving DecidableEq, Repr

/-- Sets one variable of one object, or adds or removes an object. The simulator answers with a
status alone; the reads that an accepted change puts out of date are declared, and nothing is
inferred. -/
structure ChangeQuery where
  cell : Cell
  command : UInt8
  object : String
  /-- The variable. -/
  code : UInt8
  /-- The reads that are out of date once the change is accepted. -/
  outdates : List Cell := []
  deriving DecidableEq, Repr

/-- Anything that can stand in a batch. -/
inductive Query where
  | read (q : ReadQuery)
  | change (q : ChangeQuery)
  /-- Advances the simulation to the time set before. -/
  | step (cell : Cell)
  /-- Asks for interface level and version. -/
  | version (cell : Cell)
  /-- Asks the simulator to shut down. -/
  | close
  /-- Sends commands as they are and takes a number of containers as they are. -/
  | raw (cell : Cell) (commands : List Command) (takes : Nat)
  deriving DecidableEq, Repr

/-! ## Requests -/

/-- The command whose payload names a variable and an object and goes on with `rest`. -/
def variableCommand (command code : UInt8) (object : String) (rest : Emission) :
    Except ClientError Command :=
  match (Emission.byte code ++ .text object ++ rest).result with
  | .ok payload => .ok ⟨command, payload⟩
  | .error e => .error (.framing e)

namespace ReadQuery

/-- The command of a read. A read that lacks the parameter it needs is misuse. -/
def request (q : ReadQuery) (cells : Cells) : Except ClientError Command :=
  match cells.parameters[q.cell]? with
  | some parameter => variableCommand q.command q.code q.object parameter.emit
  | none => do
    let command ← variableCommand q.command q.code q.object {}
    if q.needsParameter then throw (.missingParameter q.object q.code) else pure command

end ReadQuery

namespace ChangeQuery

/-- The command of a change, which must have been given a value. -/
def request (q : ChangeQuery) (cells : Cells) : Except ClientError Command :=
  match cells.changes[q.cell]? with
  | some v => variableCommand q.command q.code q.object v.emit
  | none => .error (.missingValue q.object q.code)

end ChangeQuery

/-- The commands that a query sends, in order. -/
def Query.requests (cells : Cells) : Query → Except ClientError (List Command)
  | read q => (q.request cells).map ([·])
  | change q => (q.request cells).map ([·])
  | step c => .ok [⟨Code.simulationStep, (Emission.binary64 (cells.target c)).bytes⟩]
  | version _ => .ok [⟨Code.getVersion, []⟩]
  | close => .ok [⟨Code.close, []⟩]
  | raw _ commands _ => .ok commands

/-! ## Answers -/

/-- The containers of a batch that were not taken yet, how many were, and what is remembered. -/
structure Intake where
  pending : List Container
  consumed : Nat := 0
  cells : Cells

/-- Taking answers. What was taken before a failure stays taken. -/
abbrev Consumer := EStateM ClientError Intake

namespace Consumer

/-- Takes the next container. -/
def next : Consumer Container := fun i =>
  match i.pending with
  | c :: pending => .ok c { i with pending, consumed := i.consumed + 1 }
  | [] => .error (.broken .noAnswerLeft) i

/-- Passes an outcome on. -/
def ofExcept {α : Type} : Except ClientError α → Consumer α
  | .ok a => pure a
  | .error e => throw e

/-- Remembers what an answer says. -/
def updateCells (f : Cells → Cells) : Consumer Unit :=
  modify fun i => { i with cells := f i.cells }

end Consumer

/-- Reads an answer's payload. Bytes behind what is read are ignored. -/
def Command.readPayload {α : Type} (answer : Command) (r : EStateM ClientError Cursor α) :
    Except ClientError α :=
  match r answer.cursor with
  | .ok a _ => .ok a
  | .error e _ => .error e

/-- Makes a reader's failure one of framing. -/
def Reader.framed {α : Type} (r : Reader α) : EStateM ClientError Cursor α := fun c =>
  match r c with
  | .ok a c => .ok a c
  | .error e c => .error (.framing e) c

namespace ReadQuery

/-- The command byte of an answer to this read. -/
def answerCommand (q : ReadQuery) : UInt8 := q.command + Code.answerOffset

/-- The value in an answer, which must be about this variable of this object. -/
def decode (q : ReadQuery) (answer : Command) : Except ClientError Value :=
  if answer.id ≠ q.answerCommand then .error (.unexpectedCommand q.answerCommand answer.id)
  else answer.readPayload do
    let code ← Reader.byte.framed
    if code ≠ q.code then throw (.unexpectedVariable q.code code)
    let object ← Reader.text.framed
    if object ≠ q.object then throw (.unexpectedObject q.object object)
    (Value.readExpecting q.type).framed

/-- The value in a container. -/
def valueOf (q : ReadQuery) (c : Container) : Except ClientError Value :=
  match c.answer? with
  | some answer => q.decode answer
  | none => .error (.missingResponse q.command)

end ReadQuery

/-- Interface level and version text in a container. -/
def versionOf (c : Container) : Except ClientError (Int32 × String) :=
  match c.answer? with
  | none => .error (.missingResponse Code.getVersion)
  | some answer =>
    if answer.id ≠ Code.getVersion then .error (.unexpectedCommand Code.getVersion answer.id)
    else answer.readPayload do
      let level ← Reader.int32.framed
      let text ← Reader.text.framed
      pure (level, text)

/-- The failure that a status reports, if it does. -/
def Status.accept (s : Status) : Except ClientError Unit :=
  if s.isOk then .ok () else .error (.refused s.command s.result s.description)

/-- Takes containers one by one and remembers them as they are. -/
def takeRaw (cell : Cell) : Nat → Consumer Unit
  | 0 => pure ()
  | n + 1 => do
    let container ← Consumer.next
    modify fun i =>
      { i with cells := i.cells.addTaken cell ⟨container, i.consumed, i.pending.length⟩ }
    takeRaw cell n

/-- Takes the containers of a query. -/
def Query.consume : Query → Consumer Unit
  | read q => do
    let container ← Consumer.next
    let v ← Consumer.ofExcept (q.valueOf container)
    Consumer.updateCells (·.keep q.cell v)
  | change q => do
    let container ← Consumer.next
    Consumer.ofExcept container.status.accept
    Consumer.updateCells (·.forgetAll q.outdates)
  | step c => do
    let container ← Consumer.next
    match container.answers? with
    | some answers => Consumer.updateCells (·.setAnswers c answers)
    | none => throw (.missingResponse Code.simulationStep)
  | version c => do
    let container ← Consumer.next
    let v ← Consumer.ofExcept (versionOf container)
    Consumer.updateCells (·.setVersion c v)
  | close => discard Consumer.next
  | raw c _ takes => takeRaw c takes

end TrafficControl
