import TrafficControl.Proofs.Protocol.ValueTakes
import TrafficControl.Query.Query

/-!
# What a read makes of a container

`q.Carries container v` says that the single answer of a container is about the variable and the
object of the read `q`, and that behind these stands the value `v`, of the kind that `q` declares.
`q.Rejects container e` says that a container fails a check of `q`, and that `e` reports the first
check that it fails. Every container does one or the other, for one value or one failure:

* `valueOf_eq_ok_iff`: a read gets a value exactly from a container that carries it.
* `valueOf_eq_error_iff`: a read fails exactly with the first check that its container fails.
-/

namespace TrafficControl

theorem Reader.framed_eq_ok {α : Type} {r : Reader α} {c c' : Cursor} {a : α} (h : r c = .ok a c') :
    r.framed c = .ok a c' := by
  unfold framed
  rw [h]

theorem Reader.framed_eq_error {α : Type} {r : Reader α} {c c' : Cursor} {e : FrameError}
    (h : r c = .error e c') : r.framed c = .error (.framing e) c' := by
  unfold framed
  rw [h]

/-- What is reported of a reader that fails is a failure of framing. -/
theorem Reader.framing_of_framed {α : Type} {r : Reader α} {c c' : Cursor} {e : ClientError}
    (h : r.framed c = .error e c') : ∃ e', e = .framing e' := by
  unfold framed at h
  split at h
  · cases h
  · cases h
    exact ⟨_, rfl⟩

namespace ReadQuery

variable {q : ReadQuery} {container : Container}

/-! ### Containers that carry a value and containers that do not -/

/-- What an answer to a read starts with: the variable and the object. -/
def heading (q : ReadQuery) : Emission := .byte q.code ++ .text q.object

/-- A container holds a single answer with the command byte of an answer to this read. -/
def AnsweredBy (q : ReadQuery) (container : Container) (payload : Bytes) : Prop :=
  container.answer? = some ⟨q.answerCommand, payload⟩

/-- The answer in a container is about the variable and the object of a read, and carries a value of
the kind that the read declares. Bytes may follow the value. -/
structure Carries (q : ReadQuery) (container : Container) (v : Value) : Prop where
  type_eq : v.type = q.type
  complete : (q.heading ++ v.emit).stopped = none
  answered : ∃ rest, q.AnsweredBy container ((q.heading ++ v.emit).bytes ++ rest)

/-- A container fails a check of a read, with the failure that is reported. The cases stand in the
order of the checks, and each says that the checks before it were passed. -/
inductive Rejects (q : ReadQuery) (container : Container) : ClientError → Prop
  | noAnswer (h : container.answer? = none) : Rejects q container (.missingResponse q.command)
  | otherCommand {answer : Command} (h : container.answer? = some answer)
      (hid : answer.id ≠ q.answerCommand) :
      Rejects q container (.unexpectedCommand q.answerCommand answer.id)
  | noVariable (h : q.AnsweredBy container []) : Rejects q container (.framing (.underflow 1 0))
  | otherVariable {code : UInt8} {rest : Bytes} (h : q.AnsweredBy container (code :: rest))
      (hcode : code ≠ q.code) : Rejects q container (.unexpectedVariable q.code code)
  | unreadableObject {rest : Bytes} {e : FrameError} {after : Cursor}
      (h : q.AnsweredBy container (q.code :: rest)) (htext : Reader.text ⟨rest, 1⟩ = .error e after) :
      Rejects q container (.framing e)
  | otherObject {rest : Bytes} {object : String} {after : Cursor}
      (h : q.AnsweredBy container (q.code :: rest)) (htext : Reader.text ⟨rest, 1⟩ = .ok object after)
      (hobject : object ≠ q.object) : Rejects q container (.unexpectedObject q.object object)
  | noTag {rest : Bytes} {pos : Nat} (h : q.AnsweredBy container (q.code :: rest))
      (htext : Reader.text ⟨rest, 1⟩ = .ok q.object ⟨[], pos⟩) :
      Rejects q container (.framing (.underflow 1 0))
  | otherTag {rest parts : Bytes} {tag : UInt8} {pos : Nat}
      (h : q.AnsweredBy container (q.code :: rest))
      (htext : Reader.text ⟨rest, 1⟩ = .ok q.object ⟨tag :: parts, pos⟩) (htag : tag ≠ q.type.tag) :
      Rejects q container (.framing (.unexpectedType q.type.tag tag))
  | unreadableValue {rest parts : Bytes} {pos : Nat} {e : FrameError} {after : Cursor}
      (h : q.AnsweredBy container (q.code :: rest))
      (htext : Reader.text ⟨rest, 1⟩ = .ok q.object ⟨q.type.tag :: parts, pos⟩)
      (hparts : Value.readParts (Value.readWithin parts.length) q.type ⟨parts, pos + 1⟩ =
        .error e after) :
      Rejects q container (.framing e)

/-! ### Getting the value, check by check -/

theorem valueOf_of_answered {payload : Bytes} (h : q.AnsweredBy container payload) :
    q.valueOf container = q.decode ⟨q.answerCommand, payload⟩ := by
  unfold valueOf
  rw [h]

/-- An answer about the variable of the read is looked at for its object, and then for its value. -/
theorem decode_of_code (rest : Bytes) :
    q.decode ⟨q.answerCommand, q.code :: rest⟩ =
      match Reader.text ⟨rest, 1⟩ with
      | .error e _ => .error (.framing e)
      | .ok object c =>
        if object ≠ q.object then .error (.unexpectedObject q.object object)
        else
          match Value.readExpecting q.type c with
          | .error e _ => .error (.framing e)
          | .ok v _ => .ok v := by
  have hbyte : Reader.byte.framed ⟨q.code :: rest, 0⟩ = .ok q.code ⟨rest, 1⟩ := rfl
  rw [decode, if_neg (fun h => h rfl), Command.readPayload, Command.cursor,
    EStateM.bind_of_ok hbyte, if_neg (fun h => h rfl)]
  rcases htext : Reader.text ⟨rest, 1⟩ with ⟨object, c⟩ | ⟨e, c⟩
  · dsimp only
    rw [EStateM.bind_of_ok (Reader.framed_eq_ok htext)]
    by_cases hobject : object = q.object
    · rw [if_neg (not_not_intro hobject), if_neg (not_not_intro hobject)]
      unfold Reader.framed
      rcases Value.readExpecting q.type c with ⟨v, c'⟩ | ⟨e, c'⟩ <;> rfl
    · rw [if_pos hobject, if_pos hobject]
      rfl
  · dsimp only
    rw [EStateM.bind_of_error (Reader.framed_eq_error htext)]

theorem readExpecting_of_tag {t : ValueType} (parts : Bytes) (pos : Nat) :
    Value.readExpecting t ⟨t.tag :: parts, pos⟩ =
      Value.readParts (Value.readWithin parts.length) t ⟨parts, pos + 1⟩ := by
  have htag : Reader.byte ⟨t.tag :: parts, pos⟩ = .ok t.tag ⟨parts, pos + 1⟩ := rfl
  rw [Value.readExpecting, EStateM.bind_of_ok htag, if_pos rfl,
    EStateM.bind_of_ok (x := MonadState.get) rfl]
  rfl

/-- A read gets the value that a container carries. -/
theorem valueOf_of_carries {v : Value} (h : q.Carries container v) :
    q.valueOf container = .ok v := by
  obtain ⟨rest, hanswered⟩ := h.answered
  have hs := h.complete
  rw [heading, Emission.append_assoc] at hs
  obtain ⟨hcode, hmore⟩ := Emission.append_stopped_eq_none.mp hs
  obtain ⟨hobject, hvalue⟩ := Emission.append_stopped_eq_none.mp hmore
  have hpayload : (q.heading ++ v.emit).bytes ++ rest =
      q.code :: ((Emission.text q.object).bytes ++ (v.emit.bytes ++ rest)) := by
    rw [heading, Emission.append_assoc, Emission.append_bytes _ hcode,
      Emission.append_bytes _ hobject, List.append_assoc, List.append_assoc]
    rfl
  have htext := Reader.reads_text q.object hobject (v.emit.bytes ++ rest) 1
  have hread := Value.reads_readExpecting v hvalue rest
    (1 + (Emission.text q.object).bytes.length)
  rw [h.type_eq] at hread
  rw [valueOf_of_answered hanswered, hpayload, decode_of_code, htext]
  dsimp only
  rw [if_neg (fun h => h rfl), hread]

/-- A read reports the check that its container fails. -/
theorem valueOf_of_rejects {e : ClientError} (h : q.Rejects container e) :
    q.valueOf container = .error e := by
  cases h with
  | noAnswer h =>
    unfold valueOf
    rw [h]
  | otherCommand h hid =>
    unfold valueOf
    rw [h]
    dsimp only
    rw [decode, if_pos hid]
  | noVariable h =>
    rw [valueOf_of_answered h, decode, if_neg (fun h => h rfl)]
    rfl
  | @otherVariable code rest h hcode =>
    have hbyte : Reader.byte.framed ⟨code :: rest, 0⟩ = .ok code ⟨rest, 1⟩ := rfl
    rw [valueOf_of_answered h, decode, if_neg (fun h => h rfl), Command.readPayload, Command.cursor,
      EStateM.bind_of_ok hbyte, if_pos hcode]
    rfl
  | unreadableObject h htext => rw [valueOf_of_answered h, decode_of_code, htext]
  | otherObject h htext hobject =>
    rw [valueOf_of_answered h, decode_of_code, htext]
    exact if_pos hobject
  | noTag h htext =>
    rw [valueOf_of_answered h, decode_of_code, htext]
    exact if_neg fun h => h rfl
  | @otherTag rest parts tag pos h htext htag =>
    have hread : Value.readExpecting q.type ⟨tag :: parts, pos⟩ =
        .error (.unexpectedType q.type.tag tag) ⟨parts, pos + 1⟩ := by
      have hbyte : Reader.byte ⟨tag :: parts, pos⟩ = .ok tag ⟨parts, pos + 1⟩ := rfl
      rw [Value.readExpecting, EStateM.bind_of_ok hbyte, if_neg htag]
      rfl
    rw [valueOf_of_answered h, decode_of_code, htext]
    dsimp only
    rw [if_neg (fun h => h rfl), hread]
  | unreadableValue h htext hparts =>
    rw [valueOf_of_answered h, decode_of_code, htext]
    dsimp only
    rw [if_neg (fun h => h rfl), readExpecting_of_tag, hparts]

/-! ### Every container is one or the other -/

/-- An answer whose object and value were read carries the value. -/
theorem carries_of_read {rest : Bytes} {c c' : Cursor} {v : Value}
    (h : q.AnsweredBy container (q.code :: rest)) (htext : Reader.text ⟨rest, 1⟩ = .ok q.object c)
    (hread : Value.readExpecting q.type c = .ok v c') : q.Carries container v := by
  obtain ⟨htype, hvalue⟩ := Value.takes_readExpecting hread
  have hbyte : Cursor.Passes ⟨q.code :: rest, 0⟩ (.byte q.code) ⟨rest, 1⟩ := ⟨rfl, rfl, rfl⟩
  have hall := (hbyte.append (Reader.takes_text htext)).append hvalue
  refine ⟨htype, hall.complete, c'.rest, ?_⟩
  have hpayload : (q.heading ++ v.emit).bytes ++ c'.rest = q.code :: rest := hall.rest_eq.symm
  rw [hpayload]
  exact h

theorem carries_or_rejects (q : ReadQuery) (container : Container) :
    (∃ v, q.Carries container v) ∨ ∃ e, q.Rejects container e := by
  rcases hanswer : container.answer? with _ | ⟨id, payload⟩
  · exact Or.inr ⟨_, .noAnswer hanswer⟩
  by_cases hid : id ≠ q.answerCommand
  · exact Or.inr ⟨_, .otherCommand hanswer hid⟩
  obtain rfl := Decidable.not_not.mp hid
  rcases payload with _ | ⟨code, rest⟩
  · exact Or.inr ⟨_, .noVariable hanswer⟩
  by_cases hcode : code ≠ q.code
  · exact Or.inr ⟨_, .otherVariable hanswer hcode⟩
  obtain rfl := Decidable.not_not.mp hcode
  rcases htext : Reader.text ⟨rest, 1⟩ with ⟨object, ⟨parts, pos⟩⟩ | ⟨e, after⟩
  rotate_left
  · exact Or.inr ⟨_, .unreadableObject hanswer htext⟩
  by_cases hobject : object ≠ q.object
  · exact Or.inr ⟨_, .otherObject hanswer htext hobject⟩
  obtain rfl := Decidable.not_not.mp hobject
  rcases parts with _ | ⟨tag, parts⟩
  · exact Or.inr ⟨_, .noTag hanswer htext⟩
  by_cases htag : tag ≠ q.type.tag
  · exact Or.inr ⟨_, .otherTag hanswer htext htag⟩
  obtain rfl := Decidable.not_not.mp htag
  rcases hparts : Value.readParts (Value.readWithin parts.length) q.type ⟨parts, pos + 1⟩ with
    ⟨v, after⟩ | ⟨e, after⟩
  · have hread := (readExpecting_of_tag parts pos).trans hparts
    exact Or.inl ⟨v, carries_of_read hanswer htext hread⟩
  · exact Or.inr ⟨_, .unreadableValue hanswer htext hparts⟩

/-- A read gets a value exactly from a container that carries it. -/
theorem valueOf_eq_ok_iff {v : Value} : q.valueOf container = .ok v ↔ q.Carries container v := by
  constructor
  · intro h
    rcases q.carries_or_rejects container with ⟨v', hcarries⟩ | ⟨e, hrejects⟩
    · have heq := valueOf_of_carries hcarries
      rw [h] at heq
      cases heq
      exact hcarries
    · rw [valueOf_of_rejects hrejects] at h
      cases h
  · exact valueOf_of_carries

/-- A read fails exactly with the first check that its container fails. -/
theorem valueOf_eq_error_iff {e : ClientError} :
    q.valueOf container = .error e ↔ q.Rejects container e := by
  constructor
  · intro h
    rcases q.carries_or_rejects container with ⟨v, hcarries⟩ | ⟨e', hrejects⟩
    · rw [valueOf_of_carries hcarries] at h
      cases h
    · have heq := valueOf_of_rejects hrejects
      rw [h] at heq
      cases heq
      exact hrejects
  · exact valueOf_of_rejects

end ReadQuery

end TrafficControl
