import TrafficControl.Proofs.Protocol.Encodability
import TrafficControl.Proofs.Query.Phases

/-!
# What is reported before anything is sent

A batch that cannot make its frame ends without a call of its link. Either the first query that cannot
make its commands lacks its parameter or its value (`Query.Lacks`), or something is larger than the field
of its count can say (`Oversized`). No byte was moved in either case, and yet the second is reported as a
failure after which the bytes of the connection can no longer be trusted: it is one of framing, as what is
wrong with a reply is (`Action.dispatch_unsent_fatal_iff`).
-/

namespace TrafficControl

/-! ### One query -/

/-- The query was not given what its command needs, and what is reported for that. -/
inductive Query.Lacks (cells : Cells) : Query → ClientError → Prop
  /-- A read has no parameter. Its object is written before that is noticed. -/
  | parameter {q : ReadQuery} (hneeds : q.needsParameter = true)
      (hnone : cells.parameters[q.cell]? = none)
      (hobject : (Count.elements (Utf8.bytes q.object).length).Fits) :
      Lacks cells (.read q) (.missingParameter q.object q.code)
  | value {q : ChangeQuery} (hnone : cells.changes[q.cell]? = none) :
      Lacks cells (.change q) (.missingValue q.object q.code)

/-- The counts in the command of a variable: that of the object, and those of what follows. -/
def variableCounts (object : String) (rest : List Count) : List Count :=
  .elements (Utf8.bytes object).length :: rest

/-- The counts that a query writes to make its commands. -/
def Query.counts (cells : Cells) : Query → List Count
  | .read q => variableCounts q.object
      (cells.parameters[q.cell]?.elim [] fun v => v.nodes.flatMap Value.counts)
  | .change q => cells.changes[q.cell]?.elim [] fun v =>
      variableCounts q.object (v.nodes.flatMap Value.counts)
  | _ => []

/-- The command of a variable is made unless a count in it does not fit. -/
theorem variableCommand_eq_error_iff {command code : UInt8} {object : String} {rest : Emission}
    {counts : List Count} {width : Nat} (h : rest.Bears counts width) {e : ClientError} :
    variableCommand command code object rest = .error e ↔
      ∃ failure, Count.firstExcess (variableCounts object counts) = some failure ∧
        e = .framing failure := by
  have hall : (Emission.byte code ++ .text object ++ rest).Bears (variableCounts object counts) _ :=
    ((Emission.Bears.raw [code]).append (.text object)).append h
  unfold variableCommand
  rcases hfirst : Count.firstExcess (variableCounts object counts) with _ | failure
  · have hok := Emission.result_eq_ok_iff.mpr ⟨hall.stopped_eq.trans hfirst, rfl⟩
    simp [hok]
  · have herror := Emission.result_eq_error_iff.mpr (hall.stopped_eq.trans hfirst)
    simp [herror, eq_comm]

/-- A read without a parameter still writes its object. -/
theorem ReadQuery.request_of_no_parameter {q : ReadQuery} {cells : Cells} {e : ClientError}
    (hnone : cells.parameters[q.cell]? = none) :
    q.request cells = .error e ↔ Query.Lacks cells (.read q) e ∨
      ∃ failure, Count.firstExcess (variableCounts q.object []) = some failure ∧
        e = .framing failure := by
  have hplain (e' : ClientError) : variableCommand q.command q.code q.object {} = .error e' ↔ _ :=
    variableCommand_eq_error_iff (.raw [])
  rcases hneeds : q.needsParameter with _ | _
  · have hnot : ¬ Query.Lacks cells (.read q) e := by
      rintro ⟨hneeds', -, -⟩
      rw [hneeds] at hneeds'
      cases hneeds'
    rw [or_iff_right hnot, request_of_plain hneeds hnone]
    exact hplain e
  · rw [request_of_lacking hneeds hnone]
    simp only [variableCounts, Count.firstExcess_singleton] at hplain ⊢
    by_cases hobject : (Count.elements (Utf8.bytes q.object).length).Fits
    · simp only [if_pos hobject, reduceCtorEq, false_and, exists_false, or_false, iff_false] at hplain ⊢
      rcases hcommand : variableCommand q.command q.code q.object {} with e' | command
      · exact absurd hcommand (hplain e')
      · constructor
        · intro h
          cases h
          exact .parameter hneeds hnone hobject
        · intro h
          cases h
          rfl
    · simp only [if_neg hobject, Option.some.injEq] at hplain ⊢
      have hcommand := (hplain _).mpr ⟨_, rfl, rfl⟩
      have hnot : ¬ Query.Lacks cells (.read q) e := by
        rintro ⟨-, -, hobject'⟩
        exact hobject hobject'
      rw [or_iff_right hnot, ← hplain, hcommand]
      rfl

/-- The commands of a query are made unless it lacks something or a count does not fit. -/
theorem Query.requests_eq_error_iff {q : Query} {cells : Cells} {e : ClientError} :
    q.requests cells = .error e ↔ q.Lacks cells e ∨
      ∃ failure, Count.firstExcess (q.counts cells) = some failure ∧ e = .framing failure := by
  cases q with
  | read q =>
    refine Except.map_eq_error_iff.trans ?_
    unfold counts
    dsimp only
    rcases hparameter : cells.parameters[q.cell]? with _ | v
    · exact ReadQuery.request_of_no_parameter hparameter
    · have hnot : ¬ Query.Lacks cells (.read q) e := by
        rintro ⟨-, hnone, -⟩
        rw [hparameter] at hnone
        cases hnone
      rw [or_iff_right hnot, ReadQuery.request_of_parameter hparameter]
      exact variableCommand_eq_error_iff v.bears_emit
  | change q =>
    refine Except.map_eq_error_iff.trans ?_
    unfold counts ChangeQuery.request
    dsimp only
    rcases hvalue : cells.changes[q.cell]? with _ | v
    · constructor
      · intro h
        cases h
        exact .inl (.value hvalue)
      · rintro (h | ⟨_, ⟨⟩, -⟩)
        cases h
        rfl
    · have hnot : ¬ Query.Lacks cells (.change q) e := by
        intro h
        cases h with
        | value hnone =>
          rw [hvalue] at hnone
          cases hnone
      rw [or_iff_right hnot]
      exact variableCommand_eq_error_iff v.bears_emit
  | step | version | close | raw =>
    refine ⟨nofun, ?_⟩
    rintro (h | ⟨_, ⟨⟩, -⟩)
    cases h

/-! ### The batch -/

/-- The first query of a batch that cannot make its commands lacks something. -/
def Lacking (cells : Cells) (queries : List Query) (e : ClientError) : Prop :=
  ∃ earlier q later requests, queries = earlier ++ q :: later ∧ Makes cells earlier requests ∧
    q.Lacks cells e

/-- Something in a batch is too large: in what its first query writes that cannot make its commands, or
in the frame if all can. -/
inductive Oversized (cells : Cells) (queries : List Query) (failure : FrameError) : Prop
  | query {earlier later : List Query} {q : Query} {requests : List (List Command)}
      (hsplit : queries = earlier ++ q :: later) (hearlier : Makes cells earlier requests)
      (hexcess : Count.firstExcess (q.counts cells) = some failure)
  | frame {requests : List (List Command)} (hmade : Makes cells queries requests)
      (hexcess : Count.firstExcess (Request.counts requests.flatten) = some failure)

/-- What keeps the frame of a batch from being made is one of the two. -/
theorem unsent_iff {cells : Cells} {queries : List Query} {e : ClientError} :
    Unsent cells queries e ↔
      Lacking cells queries e ∨ ∃ failure, Oversized cells queries failure ∧ e = .framing failure := by
  constructor
  · intro h
    cases h with
    | unmade hsplit hearlier h =>
      rcases Query.requests_eq_error_iff.mp h with hlacks | ⟨failure, hexcess, rfl⟩
      · exact .inl ⟨_, _, _, _, hsplit, hearlier, hlacks⟩
      · exact .inr ⟨failure, .query hsplit hearlier hexcess, rfl⟩
    | unframed hmade h => exact .inr ⟨_, .frame hmade (Request.encode_eq_error_iff.mp h), rfl⟩
  · rintro (⟨earlier, q, later, requests, hsplit, hearlier, hlacks⟩ | ⟨failure, hover, rfl⟩)
    · exact .unmade hsplit hearlier (Query.requests_eq_error_iff.mpr (.inl hlacks))
    · cases hover with
      | query hsplit hearlier hexcess =>
        exact .unmade hsplit hearlier (Query.requests_eq_error_iff.mpr (.inr ⟨failure, hexcess, rfl⟩))
      | frame hmade hexcess => exact .unframed hmade (Request.encode_eq_error_iff.mpr hexcess)

theorem Query.Lacks.isFatal_eq_false {q : Query} {cells : Cells} {e : ClientError}
    (h : q.Lacks cells e) : e.isFatal = false := by
  cases h <;> rfl

namespace Action

variable {σ : Type} [Link σ] {queries : List Query} {c : Client σ} {e : ClientError}

/-- A batch that cannot make its frame ends without a call of its link. Its failure leaves the connection
as it was, and is reported so exactly if a query lacks something; what is too large is reported as if the
bytes of the connection could no longer be trusted. -/
theorem dispatch_unsent_fatal_iff (h : Unsent c.memory.cells queries e) :
    dispatch queries c = .error e c ∧
    (e.isFatal = false ↔ Lacking c.memory.cells queries e) ∧
    (e.isFatal = true ↔ ∃ failure, Oversized c.memory.cells queries failure ∧ e = .framing failure) := by
  refine ⟨dispatch_of_unsent h, ?_⟩
  rcases unsent_iff.mp h with hlacking | hover
  · have hharmless : e.isFatal = false := by
      obtain ⟨-, q, -, -, -, -, hlacks⟩ := hlacking
      exact hlacks.isFatal_eq_false
    refine ⟨iff_of_true hharmless hlacking, iff_of_false ?_ ?_⟩
    · rw [hharmless]
      exact nofun
    · rintro ⟨failure, -, rfl⟩
      cases hharmless
  · have hfatal : e.isFatal = true := by
      obtain ⟨failure, -, rfl⟩ := hover
      rfl
    refine ⟨iff_of_false ?_ ?_, iff_of_true hfatal hover⟩
    · rw [hfatal]
      exact nofun
    · rintro ⟨-, q, -, -, -, -, hlacks⟩
      cases hlacks.isFatal_eq_false.symm.trans hfatal

end Action

/-! A change of a shape, which is without its value first and then has one with too many points. -/

namespace Redrawing

def shape : ChangeQuery where
  cell := ⟨0, 0⟩
  command := Code.setPolygon
  object := "p0"
  code := Code.shape

/-- A shape with one point more than can be said. -/
def drawing : Value := .polygon (.replicate 256 ⟨⟨1⟩, ⟨2⟩⟩)

def undrawn : Client Stream := { link := {} }

def drawn : Client Stream := { link := {}, memory := { cells := Cells.setChange {} shape.cell drawing } }

def batch : List Query := [.close, .change shape]

theorem undrawn_unsent :
    Unsent undrawn.memory.cells batch (.missingValue shape.object shape.code) :=
  unsent_iff.mpr (.inl ⟨[.close], .change shape, [], _, rfl, .cons rfl .nil, .value rfl⟩)

theorem drawn_oversized : Oversized drawn.memory.cells batch (.polygonTooLarge 256) := by
  have hdrawing : drawn.memory.cells.changes[shape.cell]? = some drawing :=
    Std.ExtTreeMap.getElem?_insert_self
  have hearlier : Makes drawn.memory.cells [.close] _ := .cons rfl .nil
  refine .query rfl hearlier (Count.firstExcess_eq_some_iff.mpr
    ⟨[.elements 2], .points 256, [], ?_, by decide, by decide, rfl⟩)
  rw [Query.counts, hdrawing]
  decide +kernel

theorem drawn_unsent : Unsent drawn.memory.cells batch (.framing (.polygonTooLarge 256)) :=
  unsent_iff.mpr (.inr ⟨_, drawn_oversized, rfl⟩)

end Redrawing

open Redrawing in
/-- Without its value the change is missed, and the connection is left in no doubt. -/
theorem Action.dispatch_undrawn :
    Action.dispatch batch undrawn = .error (.missingValue shape.object shape.code) undrawn ∧
    Lacking undrawn.memory.cells batch (.missingValue shape.object shape.code) ∧
    ∃ failure, Oversized drawn.memory.cells batch failure ∧
      ClientError.framing (.polygonTooLarge 256) = .framing failure := by
  obtain ⟨hdispatch, hlacking, -⟩ := dispatch_unsent_fatal_iff undrawn_unsent
  obtain ⟨-, -, hover⟩ := dispatch_unsent_fatal_iff drawn_unsent
  exact ⟨hdispatch, hlacking.mp rfl, hover.mp rfl⟩

open Redrawing in
/-- Nothing was written or read for the shape that has too many points, and yet the connection is
reported as one that can no longer be trusted. -/
theorem Action.dispatch_drawn :
    ∃ queries : List Query, ∃ c : Client Stream, ∃ e, Unsent c.memory.cells queries e ∧
      Action.dispatch queries c = .error e c ∧ e.isFatal = true :=
  ⟨batch, drawn, _, drawn_unsent, dispatch_of_unsent drawn_unsent, rfl⟩

end TrafficControl
