import TrafficControl.Proofs.Query.AskingAgain
import TrafficControl.Proofs.Traffic.Accessors
import TrafficControl.Proofs.Traffic.Replies

/-!
# What setters put out of date

A setter sends one command, which names the variable, the object and the new value. If it is accepted, the answers
to the reads that the setter declares are out of date, and no other answer is; if anything fails, none is. A read
whose answer was put out of date is asked for anew, once.

* `ChangeQuery.requests_of_runWith`: what is sent.
* `Use.sets`: the setters, with the variable, the value and the reads of each.
* `setters_outdate_what_they_declare`: what becomes of what is remembered.
-/

namespace TrafficControl

variable {σ : Type}

/-! ### Changes -/

namespace ChangeQuery

variable [Link σ] {q : ChangeQuery} {v : Value} {c c' : Client σ}

omit [Link σ] in
/-- The request of a change is one command, which says what is changed and to which value. -/
theorem request_of_given {command : Command} (h : q.request (q.given v c).memory.cells = .ok command) :
    variableCommand q.command q.code q.object v.emit = .ok command := by
  have hset : (q.given v c).memory.cells.changes[q.cell]? = some v :=
    Std.ExtTreeMap.getElem?_insert_self
  unfold request at h
  rw [hset] at h
  exact h

omit [Link σ] in
/-- A change that is sent makes one command. -/
theorem sends_of_given {requests : List (List Command)} {frame : Bytes}
    (h : Sends (q.given v c).memory.cells [.change q] requests frame) :
    ∃ command, variableCommand q.command q.code q.object v.emit = .ok command ∧
      Request.encode [command] = .ok frame := by
  obtain ⟨hmade, -, hframe⟩ := h
  cases hmade with | cons hrequests hrest => ?_
  cases hrest
  obtain ⟨command, hrequest, rfl⟩ := Except.map_eq_ok_iff.mp hrequests
  exact ⟨command, request_of_given hrequest, hframe⟩

/-- A change that succeeds has been sent. -/
theorem sends_of_ok (h : q.runWith v c = .ok () c') :
    ∃ command frame, variableCommand q.command q.code q.object v.emit = .ok command ∧
      Request.encode [command] = .ok frame := by
  have hlib : ∀ p ∈ [Query.change q], p.BuiltIn := List.forall_mem_singleton.mpr trivial
  obtain ⟨requests, frame, -, -, -, -, hsends, -⟩ :=
    Action.dispatch_eq_ok_of_reply hlib (List.cons_ne_nil _ _) h
  obtain ⟨command, hcommand, hframe⟩ := sends_of_given hsends
  exact ⟨command, frame, hcommand, hframe⟩

/-- A change calls the link at most once, and with nothing but its command. -/
theorem requests_of_runWith (q : ChangeQuery) (v : Value) (c : Client (Tapped σ)) :
    ((q.runWith v).after c).link.requests = c.link.requests ∨
    ∃ command frame, ((q.runWith v).after c).link.requests = c.link.requests ++ [frame] ∧
      Request.decode frame = .ok [command] ∧ command.IsAbout q.command q.code q.object (some v) := by
  have hafter : (q.runWith v).after c = (Action.dispatch [.change q]).after (q.given v c) := rfl
  rw [hafter]
  rcases sends_or_not (q.given v c).memory.cells [.change q] with
    ⟨requests, frame, hsends⟩ | ⟨requests, hmade, hempty⟩ | ⟨e, hunsent⟩
  · obtain ⟨command, hcommand, hframe⟩ := sends_of_given hsends
    refine Or.inr ⟨command, frame, ?_, Request.decode_encode hframe, ?_⟩
    · rw [Action.link_of_sends hsends, Action.requests_of_transact]
      rfl
    · exact @Command.isAbout_of_variableCommand _ _ _ (some v) _ hcommand
  · have hlib : ∀ p ∈ [Query.change q], p.BuiltIn := List.forall_mem_singleton.mpr trivial
    cases hmade.eq_nil hlib hempty
  · left
    rw [Action.after_of_error (Action.dispatch_of_unsent hunsent)]
    rfl

end ChangeQuery

/-! ### Reads of the same object -/

/-- If a command about an object can be made, so can one that has no more to say about the same object. -/
theorem variableCommand_of_shorter {command code : UInt8} {object : String} {rest rest' : Emission}
    {other : Command} (hother : variableCommand command code object rest = .ok other)
    (command' code' : UInt8) (hs : rest'.stopped = none) (hle : rest'.bytes.length ≤ rest.bytes.length) :
    ∃ shorter, variableCommand command' code' object rest' = .ok shorter ∧
      shorter.payload.length ≤ other.payload.length := by
  obtain ⟨hstopped, rfl⟩ := variableCommand_eq_ok hother
  obtain ⟨hsubject, -⟩ := Emission.append_stopped_eq_none.mp hstopped
  obtain ⟨hcode, htext⟩ := Emission.append_stopped_eq_none.mp hsubject
  have hcode' : (Emission.byte code').stopped = none := rfl
  have hsubject' := Emission.append_stopped_eq_none.mpr ⟨hcode', htext⟩
  have hresult := Emission.result_eq_ok_iff.mpr
    ⟨Emission.append_stopped_eq_none.mpr ⟨hsubject', hs⟩, rfl⟩
  refine ⟨⟨command', (Emission.byte code' ++ .text object ++ rest').bytes⟩, ?_, ?_⟩
  · rw [variableCommand, hresult]
  · show (Emission.byte code' ++ .text object ++ rest').bytes.length ≤
      (Emission.byte code ++ .text object ++ rest).bytes.length
    rw [Emission.append_bytes _ hsubject, Emission.append_bytes _ hsubject', Emission.append_bytes _ hcode,
      Emission.append_bytes _ hcode']
    simp only [List.length_append]
    exact Nat.add_le_add_left hle _

namespace ReadQuery

variable {q : ReadQuery} {cells : Cells}

/-- Where a command about the object of a read has a frame, the read has one if it has no more to say. -/
theorem framed_of_shorter {command code : UInt8} {rest rest' : Emission} {other : Command} {frame : Bytes}
    (hother : variableCommand command code q.object rest = .ok other)
    (hframe : Request.encode [other] = .ok frame)
    (hrequest : q.request cells = variableCommand q.command q.code q.object rest')
    (hs : rest'.stopped = none) (hle : rest'.bytes.length ≤ rest.bytes.length) : q.Framed cells := by
  obtain ⟨shorter, hshorter, hlength⟩ := variableCommand_of_shorter hother q.command q.code hs hle
  obtain ⟨frame', hframe'⟩ := Request.encode_of_mem hframe List.mem_cons_self hlength
  exact ⟨shorter, frame', hrequest.trans hshorter, hframe'⟩

/-- A read that was put out of date and can be asked for calls the link once, with its own frame. -/
theorem requests_of_framed {σ : Type} [Link σ] {c : Client (Tapped σ)}
    (hempty : q.cached? c.memory.cells = none) (h : q.Framed c.memory.cells) :
    ∃ frame, (q.get.after c).link.requests = c.link.requests ++ [frame] := by
  obtain ⟨command, frame, hrequest, hframe⟩ := h
  exact ⟨frame, requests_of_get hempty hrequest hframe⟩

/-- A read that can be asked for: it goes without a parameter, or it has the one that it needs, a number, or it
holds an answer, having been used in any way. -/
inductive Askable {σ : Type} [Link σ] (q : ReadQuery) (c : Client σ) : Prop
  | plain (hneeds : q.needsParameter = false) (hnone : c.memory.cells.parameters[q.cell]? = none)
  | given (hneeds : q.needsParameter = true) {x : Binary64}
      (hgiven : c.memory.cells.parameters[q.cell]? = some (.double x))
  | held {reads : Set ReadQuery} {history : List SlotEvent} (hcells : Set.InjOn ReadQuery.cell reads)
      (run : SlotRun reads history c) (hq : q ∈ reads) (hheld : (q.cached? c.memory.cells).isSome)

end ReadQuery

/-! ### Setters -/

/-- What a setter is for: the command and the variable that it sends, the value, and the reads whose answers are
out of date once it is accepted. -/
structure Setting (k : Kind) where
  command : UInt8
  code : UInt8
  value : Value
  outdates : List k.Variable

/-- What each setter is for, byte by byte. -/
def Use.sets : {k : Kind} → Use k → Option (Setting k)
  | _, changeTarget edge =>
    some ⟨0xc4, 0x31, .text edge, [VehicleVariable.routeId, VehicleVariable.edges]⟩
  | _, setColor c => some ⟨0xc4, 0x45, .color c, [VehicleVariable.color]⟩
  | _, setMaxSpeed limit => some ⟨0xc4, 0x41, .double limit, [VehicleVariable.maxSpeed]⟩
  | _, remove => some ⟨0xc4, 0x81, .ubyte 0x03, []⟩
  | _, setTravelTime seconds => some ⟨0xca, 0x58, .compound [.double seconds], [EdgeVariable.travelTime]⟩
  | _, setLaneMaxSpeed limit => some ⟨0xc3, 0x41, .double limit, [LaneVariable.maxSpeed]⟩
  | _, setPhase n => some ⟨0xc2, 0x22, .int n,
      [TrafficLightVariable.phase, TrafficLightVariable.state, TrafficLightVariable.nextSwitch]⟩
  | _, setProgram name => some ⟨0xc2, 0x23, .text name,
      [TrafficLightVariable.program, TrafficLightVariable.phase, TrafficLightVariable.state]⟩
  | _, _ => none

/-- The query that makes a setting of an entity. -/
def Setting.query {k : Kind} (s : Setting k) (e : Entity k) (cell : Cell) : ChangeQuery where
  cell := cell
  command := s.command
  object := e.id
  code := s.code
  outdates := s.outdates.map e.cell

/-- An entity that can be told something: one that is not a vehicle that has left. -/
def Entity.Present {k : Kind} (e : Entity k) (m : Memory) : Prop :=
  k = .vehicle → (m.vehicle e.handle).retired = false

theorem Entity.injOn_cell {k : Kind} (e : Entity k) : Set.InjOn ReadQuery.cell (Set.range e.query) := by
  rintro _ ⟨x, rfl⟩ _ ⟨y, rfl⟩ h
  rw [e.cell_injective h]

variable [Link σ] {k : Kind} {u : Use k} {s : Setting k} {e : Entity k} {cell : Cell}

theorem Vehicle.alter_of_present {v : Vehicle} {c : Client σ} (h : (c.memory.vehicle v.handle).retired = false)
    (ch : Change .vehicle) (value : Value) : v.alter ch value c = (v.change ch).runWith value c := by
  have hpresent : v.ensurePresent c = .ok () c := by
    rw [Vehicle.ensurePresent, EStateM.bind_of_ok (x := Action.memory) rfl, h]
    rfl
  exact EStateM.bind_of_ok hpresent

/-- The change that an entity holds for a setter is the one that is spelled out for it. -/
theorem Use.run_of_sets {c : Client σ} (hsets : u.sets = some s) (present : e.Present c.memory) :
    ∃ cell, u.run e c = (s.query e cell).runWith s.value c := by
  cases u with
  | changeTarget | setColor | setMaxSpeed | remove =>
    cases hsets
    exact ⟨_, Vehicle.alter_of_present (present rfl) _ _⟩
  | setTravelTime | setLaneMaxSpeed | setPhase | setProgram =>
    cases hsets
    exact ⟨_, rfl⟩
  | _ => cases hsets

/-- What is made of what is remembered when these answers about an entity go out of date: they are gone, and all
others are kept, those about other objects among them. -/
structure Entity.Outdates (e : Entity k) (xs : List k.Variable) (cells cells' : Cells) : Prop where
  emptied : ∀ x ∈ xs, (e.query x).cached? cells' = none
  kept : ∀ x ∉ xs, (e.query x).cached? cells' = (e.query x).cached? cells
  elsewhere : ∀ q : ReadQuery, q.cell.owner ≠ e.handle → q.cached? cells' = q.cached? cells
  parameters_eq : cells'.parameters = cells.parameters

theorem Setting.outdates_of_ok {c c' : Client σ} (h : (s.query e cell).runWith s.value c = .ok () c') :
    e.Outdates s.outdates c.memory.cells c'.memory.cells := by
  have hcached : ∀ x : Cell, c'.memory.cells.cached[x]? =
      if x ∈ s.outdates.map e.cell then none else c.memory.cells.cached[x]? := by
    intro x
    rw [ChangeQuery.memory_of_ok h]
    exact Cells.cached_forgetAll _ _ x
  have hmem : ∀ x : k.Variable, e.cell x ∈ s.outdates.map e.cell ↔ x ∈ s.outdates := fun x =>
    List.mem_map_of_injective e.cell_injective
  refine ⟨fun x hx => ?_, fun x hx => ?_, fun q hq => ?_, ?_⟩
  · exact (hcached (e.cell x)).trans (if_pos ((hmem x).mpr hx))
  · exact (hcached (e.cell x)).trans (if_neg (mt (hmem x).mp hx))
  · refine (hcached q.cell).trans (if_neg fun hdeclared => ?_)
    obtain ⟨x, -, hx⟩ := List.mem_map.mp hdeclared
    exact hq (congrArg Cell.owner hx).symm
  · rw [ChangeQuery.memory_of_ok h]
    exact (Effect.outdated (s.query e cell).outdates).parameters_apply
      (c.memory.cells.setChange cell s.value)

/-- Of what setters put out of date, only the travel time needs a parameter. -/
theorem Use.parameterless_or_compound (hsets : u.sets = some s) :
    (∀ x ∈ s.outdates, (k.info x).volatility ≠ .parameterized) ∨
      ∃ seconds, s.value = .compound [.double seconds] := by
  cases u with
  | setTravelTime seconds =>
    cases hsets
    exact .inr ⟨seconds, rfl⟩
  | changeTarget | setColor | setMaxSpeed | remove | setLaneMaxSpeed | setPhase | setProgram =>
    cases hsets
    left
    dsimp only
    decide
  | _ => cases hsets

/-- A number is no longer than a compound of one. -/
theorem ReadQuery.framed_of_number {q : ReadQuery} {cells : Cells} {command code : UInt8} {other : Command}
    {frame : Bytes} {seconds x : Binary64}
    (hother : variableCommand command code q.object (Value.compound [.double seconds]).emit = .ok other)
    (hframe : Request.encode [other] = .ok frame) (h : cells.parameters[q.cell]? = some (.double x)) :
    q.Framed cells := by
  have hle : (Value.double x).emit.bytes.length ≤ (Value.compound [.double seconds]).emit.bytes.length :=
    Nat.le_add_left 9 5
  exact framed_of_shorter hother hframe (request_of_parameter h) rfl hle

/-- A number that is given as a parameter leaves a number, which may be the one before. -/
theorem Cells.number_of_setParameter (cells : Cells) (cell : Cell) (time : Binary64) :
    ∃ x, (cells.setParameter cell (.double time)).parameters[cell]? = some (.double x) := by
  rcases hsame : cells.parameters[cell]?.any (·.same (.double time)) with _ | _
  · exact ⟨time, (Cells.parameters_setParameter hsame cell).trans (if_pos rfl)⟩
  · rw [Cells.setParameter_of_same hsame]
    rcases hp : cells.parameters[cell]? with _ | p
    · rw [hp] at hsame
      cases hsame
    · rw [hp] at hsame
      cases p with
      | double x => exact ⟨x, rfl⟩
      | _ => cases hsame

theorem Cells.cached_of_setParameter {cells : Cells} {cell : Cell} (h : cells.cached[cell]? = none) (v : Value) :
    (cells.setParameter cell v).cached[cell]? = none := by
  rcases hsame : cells.parameters[cell]?.any (·.same v) with _ | _
  · exact (Cells.cached_setParameter hsame cell).trans (if_pos rfl)
  · rwa [Cells.setParameter_of_same hsame]

/-- Once the travel time of an edge is set, it is asked for anew, whatever the time of entering is. -/
theorem Edge.requests_of_travelTime {e : Edge} {seconds : Binary64} {c c' : Client (Tapped σ)}
    (h : e.setTravelTime seconds c = .ok () c') (time : Binary64) :
    ∃ frame, ((e.travelTime time).after c').link.requests = c'.link.requests ++ [frame] := by
  let q := e.query EdgeVariable.travelTime
  obtain ⟨cell, hrun⟩ := Use.run_of_sets (u := .setTravelTime seconds) (e := e) (c := c) rfl nofun
  have hmade := hrun.symm.trans h
  have hempty : q.cached? c'.memory.cells = none :=
    (Setting.outdates_of_ok hmade).emptied EdgeVariable.travelTime List.mem_cons_self
  obtain ⟨command, frame, hcommand, hframe⟩ := ChangeQuery.sends_of_ok hmade
  obtain ⟨x, hx⟩ := c'.memory.cells.number_of_setParameter q.cell time
  have hframed : q.Framed (c'.memory.cells.setParameter q.cell (.double time)) :=
    ReadQuery.framed_of_number hcommand hframe hx
  obtain ⟨frame', hget⟩ := ReadQuery.requests_of_framed
    (c := { c' with memory := c'.memory.mapCells (·.setParameter q.cell (.double time)) })
    (Cells.cached_of_setParameter hempty _) hframed
  refine ⟨frame', ?_⟩
  rw [← ReadQuery.after_getAs Binary64] at hget
  exact hget

/-- A read that a setter has put out of date, and that can be asked for, has a frame. -/
theorem Use.framed_of_ok {c c' : Client σ} (hsets : u.sets = some s)
    (h : (s.query e cell).runWith s.value c = .ok () c') {x : k.Variable} (hx : x ∈ s.outdates)
    (hask : (e.query x).Askable c) : (e.query x).Framed c'.memory.cells := by
  have hparameter : c'.memory.cells.parameters[(e.query x).cell]? =
      c.memory.cells.parameters[(e.query x).cell]? := by rw [(Setting.outdates_of_ok h).parameters_eq]
  cases hask with
  | plain hneeds hnone =>
    -- the change itself had a frame, and it has said more
    obtain ⟨command, frame, hcommand, hframe⟩ := ChangeQuery.sends_of_ok h
    rw [hnone] at hparameter
    exact ReadQuery.framed_of_shorter hcommand hframe (ReadQuery.request_of_plain hneeds hparameter) rfl
      (Nat.zero_le _)
  | given hneeds hgiven =>
    obtain ⟨command, frame, hcommand, hframe⟩ := ChangeQuery.sends_of_ok h
    rcases Use.parameterless_or_compound hsets with hplain | ⟨seconds, hvalue⟩
    · exact absurd (beq_iff_eq.mp hneeds) (hplain x hx)
    · rw [hvalue] at hcommand
      exact ReadQuery.framed_of_number hcommand hframe (hparameter.trans hgiven)
  | held hcells run hq hheld =>
    obtain ⟨w, hw⟩ := Option.isSome_iff_exists.mp hheld
    exact (run.framed hcells hq hw).congr hparameter

/-- A setter of an entity that is there sends at most one command, which names its variable (`Use.sets`), the object
and the value. If it succeeds, the reads that it declares are out of date, and no other read is, of this entity or
of another object. Those that can be asked for then call the link once when they are asked for next, and a read that
remembers an answer still does not. If the setter fails, all that is remembered of reads is as it was. -/
theorem setters_outdate_what_they_declare {c : Client (Tapped σ)} (hsets : u.sets = some s)
    (present : e.Present c.memory) :
    (((u.run e).after c).link.requests = c.link.requests ∨
      ∃ command frame, ((u.run e).after c).link.requests = c.link.requests ++ [frame] ∧
        Request.decode frame = .ok [command] ∧
        command.IsAbout s.command s.code e.id (some s.value)) ∧
    (∀ c', u.run e c = .ok () c' →
      e.Outdates s.outdates c.memory.cells c'.memory.cells ∧
      (∀ x ∈ s.outdates, (e.query x).Askable c →
        ∃ frame, ((e.query x).get.after c').link.requests = c'.link.requests ++ [frame]) ∧
      (∀ x ∉ s.outdates, ∀ w, (e.query x).cached? c.memory.cells = some w →
        (e.query x).get c' = .ok w c') ∧
      ∀ q : ReadQuery, q.cell.owner ≠ e.handle → ∀ w, q.cached? c.memory.cells = some w →
        q.get c' = .ok w c') ∧
    ∀ error c', u.run e c = .error error c' →
      c'.memory.cells.cached = c.memory.cells.cached ∧
        c'.memory.cells.parameters = c.memory.cells.parameters := by
  obtain ⟨cell, hrun⟩ := Use.run_of_sets hsets present
  have hafter : (u.run e).after c = ((s.query e cell).runWith s.value).after c := by
    unfold Action.after
    rw [hrun]
  rw [hrun, hafter]
  refine ⟨(s.query e cell).requests_of_runWith s.value c, fun c' h => ?_, fun error c' h => ?_⟩
  · have houtdates := Setting.outdates_of_ok h
    refine ⟨houtdates, fun x hx hask => ?_, fun x hx w hw => ?_, fun q hq w hw => ?_⟩
    · exact ReadQuery.requests_of_framed (houtdates.emptied x hx) (Use.framed_of_ok hsets h hx hask)
    · exact ReadQuery.get_of_cached ((houtdates.kept x hx).trans hw)
    · exact ReadQuery.get_of_cached ((houtdates.elsewhere q hq).trans hw)
  · rw [ChangeQuery.memory_of_error h]
    exact ⟨rfl, rfl⟩

/-! An edge is told that it takes nine seconds. -/

namespace NineSeconds

def e0 : Edge := ⟨0, "e0"⟩

def nine : Binary64 := ⟨0x4022000000000000⟩

/-- One command, which sets variable 0x58 of the edge to a compound of one number. -/
def frame : Bytes :=
  [0, 0, 0, 27, 23, 0xca, 0x58, 0, 0, 0, 2, 0x65, 0x30, 0x0f, 0, 0, 0, 1, 0x0b, 0x40, 0x22, 0, 0, 0, 0, 0, 0]

end NineSeconds

open NineSeconds in
/-- The edge has been asked for its travel time and for its mean speed. Then its travel time is set, by just this
frame, and is asked for once more; the mean speed is remembered. -/
theorem travel_time_outdated :
    ∃ (c c' : Client (Tapped Stream)) (v w : Value) (asked : Bytes),
      (e0.query EdgeVariable.travelTime).cached? c.memory.cells = some v ∧
      (e0.query EdgeVariable.meanSpeed).cached? c.memory.cells = some w ∧
      e0.setTravelTime nine c = .ok () c' ∧
      c'.link.requests.drop 2 = [frame] ∧
      (e0.query EdgeVariable.travelTime).cached? c'.memory.cells = none ∧
      ((e0.query EdgeVariable.travelTime).get.after c').link.requests = c'.link.requests ++ [asked] ∧
      (e0.query EdgeVariable.meanSpeed).get c' = .ok w c' := by
  let q := e0.query EdgeVariable.travelTime
  let q' := e0.query EdgeVariable.meanSpeed
  let start : Client (Tapped Stream) :=
    { link := ⟨.awaiting [[q.container (.double ⟨7⟩)], [q'.container (.double ⟨8⟩)],
        [⟨⟨Code.setEdge, Code.accepted, ""⟩, .bare⟩]], []⟩ }
  let given : Client (Tapped Stream) := (q.setParameter (.double ⟨5⟩)).after start
  have hplay : q.get.succeedsWith (fun _ c₁ => q'.get.succeedsWith (fun _ c =>
      (q.cached? c.memory.cells).isSome && (e0.setTravelTime nine).succeedsWith (fun _ c' =>
        c'.link.requests.drop 2 == [frame]) c) c₁) given = true := by
    decide +kernel
  obtain ⟨_, c₁, hfirst, htest⟩ := Action.of_succeedsWith hplay
  obtain ⟨w, c, hsecond, htest⟩ := Action.of_succeedsWith htest
  obtain ⟨hheld, htest⟩ := Bool.and_eq_true_iff.mp htest
  obtain ⟨_, c', hset, hsent⟩ := Action.of_succeedsWith htest
  have hstart : SlotRun (Set.range e0.query) [] start := by
    refine .start ?_
    rintro _ ⟨x, rfl⟩
    exact ⟨rfl, rfl⟩
  have hq : q ∈ Set.range e0.query := ⟨EdgeVariable.travelTime, rfl⟩
  have hq' : q' ∈ Set.range e0.query := ⟨EdgeVariable.meanSpeed, rfl⟩
  have hrun := (hstart.setParameter hq (.double ⟨5⟩)).get hq
  rw [Action.after_of_ok hfirst] at hrun
  replace hrun := hrun.get hq'
  rw [Action.after_of_ok hsecond] at hrun
  obtain ⟨v, hv⟩ := Option.isSome_iff_exists.mp hheld
  have hw := ReadQuery.cached_of_get hsecond
  obtain ⟨-, hgood, -⟩ := setters_outdate_what_they_declare
    (u := .setTravelTime nine) (e := e0) (c := c) rfl nofun
  obtain ⟨houtdates, hasked, hkept, -⟩ := hgood c' hset
  obtain ⟨asked, hanew⟩ := hasked EdgeVariable.travelTime List.mem_cons_self
    (.held e0.injOn_cell hrun hq hheld)
  have hother : EdgeVariable.meanSpeed ∉ [EdgeVariable.travelTime] := by decide
  exact ⟨c, c', v, w, asked, hv, hw, hset, beq_iff_eq.mp hsent,
    houtdates.emptied EdgeVariable.travelTime List.mem_cons_self, hanew,
    hkept EdgeVariable.meanSpeed hother w hw⟩

end TrafficControl
