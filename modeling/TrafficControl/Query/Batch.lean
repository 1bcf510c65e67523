import TrafficControl.Client.Reading
import TrafficControl.Query.Query

/-!
# Batches

A batch sends the commands of its queries in one round trip and hands the answers back by their
places. Every status is looked at before any query takes an answer, so that a refusal leaves all
that is remembered as it was; the simulator may still have done what came before the command it
refused.
-/

namespace TrafficControl

/-- The commands of each query, or the first failure to make them. -/
def batchRequests (cells : Cells) (queries : List Query) :
    Except ClientError (List (List Command)) :=
  queries.mapM (Query.requests cells)

/-- Whether a container answers a command, and with success. -/
def Container.answers (c : Container) (command : Command) : Except ClientError Unit :=
  if c.status.command ≠ command.id then
    .error (.unexpectedCommand command.id c.status.command)
  else c.status.accept

/-- Looks at every status, in order. -/
def checkStatuses : List Command → List Container → Except ClientError Unit
  | command :: commands, c :: containers => do
    c.answers command
    checkStatuses commands containers
  | _, _ => .ok ()

/-- The containers of a response that answers the commands sent: as many as there are commands,
each about its own, and all of them with success. -/
def checkedContainers (commands : List Command) (reply : Bytes) :
    Except ClientError (List Container) :=
  match Response.decode reply with
  | .error e => .error (.framing e)
  | .ok containers =>
    if containers.length ≠ commands.length then
      .error (.responseCount commands.length containers.length)
    else (checkStatuses commands containers).map fun _ => containers

/-- Lets a query take its containers, which must be as many as it has sent commands. -/
def consumeExactly (query : Query) (expected : Nat) : Consumer Unit := do
  let before ← get
  query.consume
  let after ← get
  let taken := after.consumed - before.consumed
  if taken ≠ expected then throw (.broken (.answersTaken taken expected))

/-- Lets queries take their containers, in order. -/
def consumeAll : List (Query × Nat) → Consumer Unit
  | [] => pure ()
  | (query, expected) :: rest => do
    consumeExactly query expected
    consumeAll rest

namespace Action

variable {σ : Type}

/-- Hands containers to queries. -/
def consume (batch : List (Query × Nat)) (containers : List Container) : Action σ Unit := fun c =>
  let remember (i : Intake) : Client σ := { c with memory := { c.memory with cells := i.cells } }
  match consumeAll batch { pending := containers, cells := c.memory.cells } with
  | .ok () i => .ok () (remember i)
  | .error e i => .error e (remember i)

/-- Runs queries as one batch, in order. A batch without commands moves no byte. -/
def dispatch [Link σ] (queries : List Query) : Action σ Unit := do
  let requests ← ofExcept (batchRequests (← memory).cells queries)
  let commands := requests.flatten
  if commands.isEmpty then return
  let frame ← framed (Request.encode commands)
  let reply ← roundTrip frame
  let containers ← ofExcept (checkedContainers commands reply)
  consume (queries.zip (requests.map List.length)) containers

end Action

/-! ## Queries on their own -/

namespace ReadQuery

variable {σ : Type}

/-- What is remembered of the answer to a read. -/
def cached? (q : ReadQuery) (cells : Cells) : Option Value := cells.cached[q.cell]?

/-- The remembered answer, or a new one from a batch of its own. -/
def get [Link σ] (q : ReadQuery) : Action σ Value := do
  match q.cached? (← Action.memory).cells with
  | some v => pure v
  | none =>
    Action.dispatch [.read q]
    match q.cached? (← Action.memory).cells with
    | some v => pure v
    | none => throw (.broken (.discarded q.code q.object))

/-- The answer to a read as what it stands for. -/
def getAs (α : Type) [Link σ] [Readable α] (q : ReadQuery) : Action σ α := do
  Action.ofExcept (Readable.ofValue (← q.get))

/-- Sets the parameter of a read. -/
def setParameter (q : ReadQuery) (v : Value) : Action σ Unit :=
  Action.updateCells (·.setParameter q.cell v)

/-- Puts the answer to a read out of date. -/
def forget (q : ReadQuery) : Action σ Unit := Action.updateCells (·.forget q.cell)

end ReadQuery

namespace ChangeQuery

variable {σ : Type}

def setValue (q : ChangeQuery) (v : Value) : Action σ Unit :=
  Action.updateCells (·.setChange q.cell v)

/-- Sends a change with the value set before. -/
def run [Link σ] (q : ChangeQuery) : Action σ Unit := Action.dispatch [.change q]

/-- Sets the value of a change and sends it. -/
def runWith [Link σ] (q : ChangeQuery) (v : Value) : Action σ Unit := do
  q.setValue v
  q.run

end ChangeQuery

end TrafficControl
