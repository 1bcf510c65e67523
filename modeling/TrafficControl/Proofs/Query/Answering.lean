import TrafficControl.Proofs.Protocol.MessageReads
import TrafficControl.Proofs.Query.Phases

/-!
# Answers and the queries that take them

`Answers q command container e` says that a simulator that was sent `command` by `q` answers with
`container`, and that `e` is what `q` has to remember of it. The simulator looks at the command
alone: it answers a read about whatever variable and object it finds in the command.

* `effectOf_of_answers`: a query makes of its answer what the answer says.
* `takes_of_answers`: so do the queries of a batch, one after another.
-/

namespace TrafficControl

/-! ### Answers -/

/-- A container that answers a command with success. -/
def Container.accepting (command : Command) (reply : Reply) (description : String) : Container :=
  ⟨⟨command.id, Code.accepted, description⟩, reply⟩

/-- `Answers q command container e`: a simulator that was sent `command` by `q` answers as it should
with `container`, and `e` is what the answer says. -/
inductive Answers : Query → Command → Container → Effect → Prop
  /-- A read is answered by some value of its type, about the variable and the object of the
  command. -/
  | read {q : ReadQuery} {command : Command} {subject : Subject} {after : Cursor} {v : Value}
      {payload : Bytes} {description : String}
      (hsubject : Reader.subject command.cursor = .ok subject after) (htype : v.type = q.type)
      (hpayload : (Emission.byte subject.code ++ .text subject.object ++ v.emit).result = .ok payload) :
      Answers (.read q) command
        (.accepting command (.single ⟨command.id + Code.answerOffset, payload⟩) description)
        (.kept q.cell v)
  | change {q : ChangeQuery} {command : Command} {description : String} :
      Answers (.change q) command (.accepting command .bare description) (.outdated q.outdates)
  | step {cell : Cell} {command : Command} {answers : List Command} {description : String} :
      Answers (.step cell) command (.accepting command (.several answers) description)
        (.stepped cell answers)
  | version {cell : Cell} {command : Command} {level : Int32} {text : String} {payload : Bytes}
      {description : String}
      (hpayload : (Emission.int32 level ++ .text text).result = .ok payload) :
      Answers (.version cell) command
        (.accepting command (.single ⟨Code.getVersion, payload⟩) description)
        (.identified cell (level, text))
  | close {command : Command} {description : String} :
      Answers .close command (.accepting command .bare description) .nothing

/-- The answer to a read that carries a value. -/
def ReadQuery.answer (q : ReadQuery) (v : Value) : Command where
  id := q.answerCommand
  payload := (Emission.byte q.code ++ .text q.object ++ v.emit).bytes

/-- A simulator answers a read with a value of its type that can be written. -/
theorem Answers.of_asks {q : ReadQuery} {cells : Cells} {command : Command} {v : Value}
    (hasks : Query.Asks cells (.read q) command) (htype : v.type = q.type)
    (hs : (Emission.byte q.code ++ .text q.object ++ v.emit).stopped = none) (description : String) :
    Answers (.read q) command (.accepting command (.single (q.answer v)) description)
      (.kept q.cell v) := by
  obtain ⟨hid, hsubject⟩ := hasks
  have hpayload := Emission.result_eq_ok_iff.mpr ⟨hs, rfl⟩
  unfold ReadQuery.answer ReadQuery.answerCommand
  rw [← hid]
  exact .read hsubject htype hpayload

/-- A simulator answers the commands of a batch, one after another. -/
inductive AnswersAll : List Query → List Command → List Container → List Effect → Prop
  | nil : AnswersAll [] [] [] []
  | cons {q : Query} {command : Command} {container : Container} {e : Effect} {queries : List Query}
      {commands : List Command} {containers : List Container} {effects : List Effect}
      (h : Answers q command container e) (hs : AnswersAll queries commands containers effects) :
      AnswersAll (q :: queries) (command :: commands) (container :: containers) (e :: effects)

namespace Answers

variable {q : Query} {cells : Cells} {command : Command} {container : Container} {e : Effect}

theorem status_eq (h : Answers q command container e) :
    container.status.command = command.id ∧ container.status.isOk = true := by
  cases h <;> exact ⟨rfl, rfl⟩

/-- The answer to a command that a query of the usual kinds has sent has the shape that its status
announces. -/
theorem shaped (h : Answers q command container e) (hq : q.Standard) (hasks : q.Asks cells command) :
    container.Shaped := by
  cases h with
  | read =>
    obtain ⟨hid, -⟩ := hasks
    obtain ⟨-, hmore, hstep⟩ := hq
    rw [← hid] at hmore hstep
    exact ⟨rfl, hmore, hstep⟩
  | change =>
    obtain ⟨v, -, hid, -⟩ := hasks
    have hmore : Code.isStatusOnly command.id = true := hid ▸ hq
    exact Or.inr hmore
  | step =>
    obtain ⟨hid, -⟩ := hasks
    refine ⟨rfl, ?_, hid⟩
    show Code.isStatusOnly command.id = false
    rw [hid]
    rfl
  | version =>
    obtain rfl : command = ⟨Code.getVersion, []⟩ := hasks
    have hstep : Code.getVersion ≠ Code.simulationStep := by decide
    exact ⟨rfl, rfl, hstep⟩
  | close =>
    obtain rfl : command = ⟨Code.close, []⟩ := hasks
    exact Or.inr rfl

end Answers

/-! ### Taking answers -/

/-- An answer about the variable and the object of a read carries its value. -/
theorem ReadQuery.carries_of_payload {q : ReadQuery} {status : Status} {v : Value} {payload : Bytes}
    (htype : v.type = q.type)
    (hpayload : (Emission.byte q.code ++ .text q.object ++ v.emit).result = .ok payload) :
    q.Carries ⟨status, .single ⟨q.answerCommand, payload⟩⟩ v := by
  obtain ⟨hs, rfl⟩ := Emission.result_eq_ok_iff.mp hpayload
  refine ⟨htype, hs, [], ?_⟩
  rw [List.append_nil]
  rfl

/-- Level and text come out of an answer about the version. -/
theorem versionOf_eq_ok {status : Status} {level : Int32} {text : String} {payload : Bytes}
    (hpayload : (Emission.int32 level ++ .text text).result = .ok payload) :
    versionOf ⟨status, .single ⟨Code.getVersion, payload⟩⟩ = .ok (level, text) := by
  obtain ⟨hs, rfl⟩ := Emission.result_eq_ok_iff.mp hpayload
  obtain ⟨hlevel, htext⟩ := Emission.append_stopped_eq_none.mp hs
  have hread := Reader.reads_text text htext [] (0 + (Emission.int32 level).bytes.length)
  rw [List.append_nil] at hread
  unfold versionOf
  dsimp only [Container.answer?]
  rw [if_neg (fun h => h rfl), Emission.append_bytes _ hlevel, Command.readPayload, Command.cursor,
    EStateM.bind_of_ok (Reader.framed_eq_ok (Reader.reads_int32 level hlevel _ 0)),
    EStateM.bind_of_ok (Reader.framed_eq_ok hread)]
  rfl

/-- A query makes of its answer what the answer says. -/
theorem effectOf_of_answers {q : Query} {command : Command} {container : Container} {e : Effect}
    (h : Answers q command container e) (hasks : ∃ cells, q.Asks cells command) :
    q.effectOf container = .ok e := by
  obtain ⟨_, hasks⟩ := hasks
  cases h with
  | @read q command subject after v payload description hsubject htype hpayload =>
    obtain ⟨hid, hfound⟩ := hasks
    rw [hsubject] at hfound
    cases hfound
    have hcarries : q.Carries (.accepting command
        (.single ⟨command.id + Code.answerOffset, payload⟩) description) v := by
      rw [hid]
      exact ReadQuery.carries_of_payload htype hpayload
    rw [Query.effectOf, ReadQuery.valueOf_eq_ok_iff.mpr hcarries]
    rfl
  | change => rfl
  | step => rfl
  | version hpayload =>
    rw [Query.effectOf, Container.accepting, versionOf_eq_ok hpayload]
    rfl
  | close => rfl

/-- The queries of a batch take their answers one after another, each its own. -/
theorem takes_of_answers {asked : Cells} {queries : List Query} {commands : List Command}
    {containers : List Container} {effects : List Effect}
    (h : AnswersAll queries commands containers effects)
    (hasks : List.Forall₂ (Query.Asks asked) queries commands) :
    Takes queries containers effects := by
  induction h with
  | nil => exact .nil
  | cons hq _ ih =>
    obtain ⟨hask, hrest⟩ := List.forall₂_cons.mp hasks
    exact .cons (effectOf_of_answers hq ⟨_, hask⟩) (ih hrest)

/-- Every answer of a batch acknowledges the command that it answers. -/
theorem acknowledges_of_answers {queries : List Query} {commands : List Command}
    {containers : List Container} {effects : List Effect}
    (h : AnswersAll queries commands containers effects) :
    List.Forall₂ Container.Acknowledges containers commands := by
  induction h with
  | nil => exact .nil
  | cons hq _ ih => exact .cons hq.status_eq ih

theorem shaped_of_answers {asked : Cells} {queries : List Query} {commands : List Command}
    {containers : List Container} {effects : List Effect}
    (h : AnswersAll queries commands containers effects) (hstd : ∀ q ∈ queries, q.Standard)
    (hasks : List.Forall₂ (Query.Asks asked) queries commands) :
    ∀ container ∈ containers, container.Shaped := by
  induction h with
  | nil => exact fun _ h => nomatch h
  | cons hq _ ih =>
    obtain ⟨hask, hrest⟩ := List.forall₂_cons.mp hasks
    intro container hmem
    rcases List.mem_cons.mp hmem with rfl | hmem
    · exact hq.shaped (hstd _ List.mem_cons_self) hask
    · exact ih (fun q hq => hstd q (List.mem_cons_of_mem _ hq)) hrest container hmem

end TrafficControl
