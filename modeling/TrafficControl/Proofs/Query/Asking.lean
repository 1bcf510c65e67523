import Mathlib.Data.List.Forall2
import TrafficControl.Proofs.Protocol.ValueReads
import TrafficControl.Query.Batch

/-!
# What a query asks

A query of the usual kinds sends one command. Whoever takes the payload of that command apart, as a
variable, an object and perhaps a value, finds the query's own fields and nothing behind them.

* `Query.Standard`: the queries that a simulator answers in the usual way.
* `Query.asks_of_requests`: what the command of such a query says.
* `batchRequests_eq_ok`: a batch sends the commands of its queries, in order.
-/

namespace TrafficControl

/-! ### Payloads -/

/-- What a payload is about. -/
structure Subject where
  /-- The variable. -/
  code : UInt8
  object : String
  /-- What stands behind variable and object, if anything does. -/
  value? : Option Value

namespace Reader

/-- Takes a variable, an object and, if there is more, a value. -/
def subject : Reader Subject := do
  let code ← byte
  let object ← text
  let c ← get
  if c.rest.isEmpty then pure ⟨code, object, none⟩
  else (⟨code, object, some ·⟩) <$> Value.read

/-- The writing of an optional value. -/
def emitOptional : Option Value → Emission
  | none => {}
  | some v => v.emit

/-- A payload is taken apart without a rest. -/
theorem subject_of_emit {code : UInt8} {object : String} {value? : Option Value}
    (hs : (Emission.byte code ++ .text object ++ emitOptional value?).stopped = none) :
    subject ⟨(Emission.byte code ++ .text object ++ emitOptional value?).bytes, 0⟩ =
      .ok ⟨code, object, value?⟩
        ⟨[], (Emission.byte code ++ .text object ++ emitOptional value?).bytes.length⟩ := by
  rw [Emission.append_assoc] at hs ⊢
  obtain ⟨hcode, hmore⟩ := Emission.append_stopped_eq_none.mp hs
  obtain ⟨hobject, hvalue⟩ := Emission.append_stopped_eq_none.mp hmore
  rw [Emission.append_bytes _ hcode, Emission.append_bytes _ hobject, subject,
    EStateM.bind_of_ok (reads_byte code hcode _ 0), EStateM.bind_of_ok (reads_text object hobject _ _),
    EStateM.bind_of_ok (x := MonadState.get) rfl, List.length_append, List.length_append]
  cases value? with
  | none =>
    rw [if_pos (show (Cursor.rest ⟨(emitOptional none).bytes, _⟩).isEmpty = true from rfl)]
    show EStateM.Result.ok _ _ = _
    simp only [Nat.zero_add]
    rfl
  | some v =>
    have hne : (Cursor.rest ⟨(emitOptional (some v)).bytes,
        0 + (Emission.byte code).bytes.length + (Emission.text object).bytes.length⟩).isEmpty ≠
        true := by
      intro hempty
      have hnil : v.emit.bytes = [] := List.isEmpty_iff.mp hempty
      have hlen := Value.length_emit v
      rw [hnil] at hlen
      cases hlen
    have hread := Value.reads_read v hvalue []
      (0 + (Emission.byte code).bytes.length + (Emission.text object).bytes.length)
    rw [List.append_nil] at hread
    rw [if_neg hne]
    refine (EStateM.map_of_ok _ hread).trans ?_
    rw [Nat.zero_add, Nat.add_assoc]
    rfl

end Reader

theorem variableCommand_eq_ok {command code : UInt8} {object : String} {rest : Emission}
    {c : Command} (h : variableCommand command code object rest = .ok c) :
    (Emission.byte code ++ .text object ++ rest).stopped = none ∧
      c = ⟨command, (Emission.byte code ++ .text object ++ rest).bytes⟩ := by
  unfold variableCommand at h
  split at h
  · next payload hpayload =>
    obtain ⟨hs, rfl⟩ := Emission.result_eq_ok_iff.mp hpayload
    cases h
    exact ⟨hs, rfl⟩
  · cases h

namespace ReadQuery

variable {q : ReadQuery} {cells : Cells}

theorem request_of_parameter {p : Value} (h : cells.parameters[q.cell]? = some p) :
    q.request cells = variableCommand q.command q.code q.object p.emit := by
  rw [request, h]

theorem request_of_plain (hneeds : q.needsParameter = false) (h : cells.parameters[q.cell]? = none) :
    q.request cells = variableCommand q.command q.code q.object {} := by
  rw [request, h]
  dsimp only
  rw [hneeds]
  cases variableCommand q.command q.code q.object {} <;> rfl

/-- That a parameter is missing is noticed once the command could be written without it. -/
theorem request_of_lacking (hneeds : q.needsParameter = true) (h : cells.parameters[q.cell]? = none) :
    q.request cells = (variableCommand q.command q.code q.object {}).bind fun _ =>
      .error (.missingParameter q.object q.code) := by
  rw [request, h]
  dsimp only
  rw [hneeds]
  rfl

end ReadQuery

/-! ### The commands of a query -/

/-- A command asks about a variable of an object, and carries a value if there is one. -/
def Command.IsAbout (c : Command) (command code : UInt8) (object : String) (value? : Option Value) :
    Prop :=
  c.id = command ∧ Reader.subject c.cursor = .ok ⟨code, object, value?⟩ ⟨[], c.payload.length⟩

theorem Command.isAbout_of_variableCommand {command code : UInt8} {object : String}
    {value? : Option Value} {c : Command}
    (h : variableCommand command code object (Reader.emitOptional value?) = .ok c) :
    c.IsAbout command code object value? := by
  obtain ⟨hs, rfl⟩ := variableCommand_eq_ok h
  exact ⟨rfl, Reader.subject_of_emit hs⟩

namespace Query

/-- The queries that a simulator answers in the usual way: reads whose command is answered by one
answer, changes whose command is answered by a status alone, and the control queries. -/
def Standard : Query → Prop
  | .read q => q.command < 0xf0 ∧ Code.isStatusOnly q.command = false ∧
      q.command ≠ Code.simulationStep
  | .change q => Code.isStatusOnly q.command = true
  | .raw .. => False
  | _ => True

instance : DecidablePred Standard
  | .read _ => inferInstanceAs (Decidable (_ ∧ _ ∧ _))
  | .change _ => inferInstanceAs (Decidable (_ = _))
  | .raw .. => inferInstanceAs (Decidable False)
  | .step _ => inferInstanceAs (Decidable True)
  | .version _ => inferInstanceAs (Decidable True)
  | .close => inferInstanceAs (Decidable True)

/-- What a command says that a query has sent. -/
def Asks (cells : Cells) : Query → Command → Prop
  | .read q, c => c.IsAbout q.command q.code q.object cells.parameters[q.cell]?
  | .change q, c => ∃ v, cells.changes[q.cell]? = some v ∧
      c.IsAbout q.command q.code q.object (some v)
  | .step cell, c => c.id = Code.simulationStep ∧
      Reader.binary64 c.cursor = .ok (cells.target cell) ⟨[], c.payload.length⟩
  | .version _, c => c = ⟨Code.getVersion, []⟩
  | .close, c => c = ⟨Code.close, []⟩
  | .raw _ commands _, c => c ∈ commands

theorem asks_of_read {q : ReadQuery} {cells : Cells} {c : Command} (h : q.request cells = .ok c) :
    Asks cells (.read q) c := by
  show c.IsAbout _ _ _ _
  rcases hparameter : cells.parameters[q.cell]? with _ | p
  · rcases hneeds : q.needsParameter with _ | _
    · rw [ReadQuery.request_of_plain hneeds hparameter] at h
      exact @Command.isAbout_of_variableCommand _ _ _ none _ h
    · rw [ReadQuery.request_of_lacking hneeds hparameter] at h
      cases hcommand : variableCommand q.command q.code q.object {} <;> rw [hcommand] at h <;> cases h
  · rw [ReadQuery.request_of_parameter hparameter] at h
    exact @Command.isAbout_of_variableCommand _ _ _ (some p) _ h

theorem asks_of_change {q : ChangeQuery} {cells : Cells} {c : Command}
    (h : q.request cells = .ok c) : Asks cells (.change q) c := by
  unfold ChangeQuery.request at h
  split at h
  · next v hv => exact ⟨v, hv, @Command.isAbout_of_variableCommand _ _ _ (some v) _ h⟩
  · cases h

/-- A query of the usual kinds sends one command, which says what the query asks. -/
theorem asks_of_requests {q : Query} {cells : Cells} {commands : List Command} (hq : q.Standard)
    (h : q.requests cells = .ok commands) : ∃ c, commands = [c] ∧ q.Asks cells c := by
  cases q with
  | read q =>
    obtain ⟨c, hrequest, rfl⟩ := Except.map_eq_ok_iff.mp h
    exact ⟨c, rfl, asks_of_read hrequest⟩
  | change q =>
    obtain ⟨c, hrequest, rfl⟩ := Except.map_eq_ok_iff.mp h
    exact ⟨c, rfl, asks_of_change hrequest⟩
  | step cell =>
    cases h
    have hread := Reader.reads_binary64 (cells.target cell) rfl [] 0
    rw [List.append_nil, Nat.zero_add] at hread
    exact ⟨_, rfl, rfl, hread⟩
  | version cell =>
    cases h
    exact ⟨_, rfl, rfl⟩
  | close =>
    cases h
    exact ⟨_, rfl, rfl⟩
  | raw => exact hq.elim

end Query

/-! ### The commands of a batch -/

theorem batchRequests_eq_ok {cells : Cells} {queries : List Query} {requests : List (List Command)}
    (h : batchRequests cells queries = .ok requests) :
    List.Forall₂ (fun q commands => q.requests cells = .ok commands) queries requests := by
  unfold batchRequests at h
  induction queries generalizing requests with
  | nil =>
    cases h
    exact .nil
  | cons q queries ih =>
    rw [List.mapM_cons] at h
    rcases hq : q.requests cells with e | commands
    · rw [hq] at h
      cases h
    · rcases htail : queries.mapM (Query.requests cells) with e | others
      · rw [hq, htail] at h
        cases h
      · rw [hq, htail] at h
        cases h
        exact .cons hq (ih htail)

/-- Each query of a batch sends one command, in the order of the queries. -/
theorem flatten_of_batchRequests {cells : Cells} {queries : List Query}
    {requests : List (List Command)} (hstd : ∀ q ∈ queries, q.Standard)
    (h : batchRequests cells queries = .ok requests) :
    requests = requests.flatten.map ([·]) ∧
      List.Forall₂ (Query.Asks cells) queries requests.flatten := by
  have hall := batchRequests_eq_ok h
  clear h
  induction hall with
  | nil => exact ⟨rfl, .nil⟩
  | cons hq _ ih =>
    obtain ⟨c, rfl, hasks⟩ := Query.asks_of_requests (hstd _ List.mem_cons_self) hq
    obtain ⟨hsingle, hrest⟩ := ih fun q hq => hstd q (List.mem_cons_of_mem _ hq)
    refine ⟨?_, .cons hasks hrest⟩
    rw [List.flatten_cons, List.singleton_append, List.map_cons, ← hsingle]

end TrafficControl
