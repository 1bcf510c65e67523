import TrafficControl.Entity.TrafficLight
import TrafficControl.Proofs.Query.Fetching
import TrafficControl.Proofs.Query.Verdict
import TrafficControl.Proofs.Traffic.Replies
import TrafficControl.Proofs.Traffic.Roles

/-!
# Traffic lights and the signals that they show

A simulator lets a traffic light show signals, answers reads with those of the moment, and changes them
at steps and when it accepts a new phase or a new program. A `Watch` is a run of calls on one light
against such a simulator.

What is remembered of state, phase and program is what the light shows, at any time. With the next switch
it is not quite so. A new program may change it, but does not put it out of date.

* `Watch.remembered`: what is remembered, in terms of what has happened.
* `reads_current`: what reads give.
* `next_switch_outlives_program`: a next switch that belongs to the program before.
-/

namespace TrafficControl

namespace TrafficLight

variable {σ : Type} {t : TrafficLight}

/-! ### Signals -/

/-- What a traffic light shows. -/
structure Signals where
  state : String := ""
  phase : Int32 := 0
  program : String := ""
  nextSwitch : Binary64 := .zero
  controlledLanes : List String := []

/-- The values of the variables. -/
def Signals.value (s : Signals) : TrafficLightVariable → Value
  | .state => .text s.state
  | .phase => .int s.phase
  | .program => .text s.program
  | .nextSwitch => .double s.nextSwitch
  | .controlledLanes => .textList s.controlledLanes

/-- The variables that may have another value once a change was accepted. -/
def affects : Change .trafficLight → List TrafficLightVariable
  | .phase => [.phase, .state, .nextSwitch]
  | .program => [.program, .phase, .state, .nextSwitch]

/-- The variables that a step puts out of date. -/
def varying : List TrafficLightVariable := Kind.trafficLight.steppedVariables

/-- The variables that an accepted change puts out of date. -/
def outdated (ch : Change .trafficLight) : List TrafficLightVariable := ch.outdates

theorem mem_varying_iff {x : TrafficLightVariable} : x ∈ varying ↔ x ≠ .controlledLanes := by
  cases x <;> decide

/-- A change puts out of date what it affects, with one exception. -/
theorem mem_outdated_iff {ch : Change .trafficLight} {x : TrafficLightVariable} :
    x ∈ outdated ch ↔ x ∈ affects ch ∧ ¬ (ch = .program ∧ x = .nextSwitch) := by
  cases ch <;> cases x <;> decide

/-! ### Runs -/

variable [Link σ]

/-- If the link brings an answer to the read of a variable, the answer carries the value of the
moment. -/
def AnswersWith (t : TrafficLight) (x : TrafficLightVariable) (now : Signals) (c : Client σ) : Prop :=
  ∀ requests frame reply link container v,
    Sends c.memory.cells [.read (t.query x)] requests frame →
    Link.transact frame c.link = .ok reply link → Response.decode reply = .ok [container] →
    (t.query x).Carries container v → v = now.value x

/-- What has happened to a traffic light and to what is remembered of it. -/
inductive Event where
  /-- A read succeeded while the light was showing these signals. -/
  | read (x : TrafficLightVariable) (now : Signals)
  | accepted (ch : Change .trafficLight)
  | stepped

/-- `Watch t history now c`: a client that knew nothing of the light has become `c`, the light shows
`now`, and `history` lists what has happened, the latest first. -/
inductive Watch (t : TrafficLight) : List Event → Signals → Client σ → Prop
  | new {now : Signals} {c : Client σ} (h : ∀ x, (t.query x).cached? c.memory.cells = none) :
      Watch t [] now c
  | read {history : List Event} {now : Signals} {c c' : Client σ} {x : TrafficLightVariable} {v : Value}
      (watch : Watch t history now c) (answers : AnswersWith t x now c)
      (h : (t.query x).get c = .ok v c') : Watch t (.read x now :: history) now c'
  | readFailed {history : List Event} {now : Signals} {c c' : Client σ} {x : TrafficLightVariable}
      {e : ClientError} (watch : Watch t history now c) (h : (t.query x).get c = .error e c') :
      Watch t history now c'
  | accepted {history : List Event} {now next : Signals} {c c' : Client σ} {ch : Change .trafficLight}
      {v : Value} (watch : Watch t history now c) (h : (t.change ch).runWith v c = .ok () c')
      (rest : ∀ x, x ∉ affects ch → next.value x = now.value x) :
      Watch t (.accepted ch :: history) next c'
  | rejected {history : List Event} {now : Signals} {c c' : Client σ} {ch : Change .trafficLight}
      {v : Value} {e : ClientError} (watch : Watch t history now c)
      (h : (t.change ch).runWith v c = .error e c') : Watch t history now c'
  | stepped {history : List Event} {now next : Signals} {c : Client σ} (watch : Watch t history now c)
      (link : σ) (time : Binary64) :
      Watch t (.stepped :: history) next
        { c with link, memory := (Listener.entity t).nextStep time c.memory }

omit [Link σ] in
/-- What the light was showing when the next switch was asked for first since the last step and the last
new phase. -/
def firstAsked : List Event → Option Signals
  | [] => none
  | .read .nextSwitch now :: earlier => (firstAsked earlier).or (some now)
  | .read _ _ :: earlier => firstAsked earlier
  | .accepted .phase :: _ => none
  | .accepted .program :: earlier => firstAsked earlier
  | .stepped :: _ => none

/-! ### What calls do to what is remembered -/

variable {c c' : Client σ} {x y : TrafficLightVariable} {v : Value} {e : ClientError}

omit [Link σ] in
theorem cached_keep_of_read (h : c'.memory = c.memory.mapCells (·.keep (t.query x).cell v)) (y :
    TrafficLightVariable) : (t.query y).cached? c'.memory.cells =
      if x = y then some v else (t.query y).cached? c.memory.cells := by
  rw [h]
  have hcell : (t.query x).cell = (t.query y).cell ↔ x = y := t.cell_injective.eq_iff
  refine (Cells.cached_keep c.memory.cells _ v _).trans ?_
  simp only [hcell]
  rfl

/-- A read that succeeds gives what is remembered, or else what the link brings. That is then remembered,
and nothing else changes. -/
theorem cached_of_read {now : Signals} (answers : AnswersWith t x now c)
    (h : (t.query x).get c = .ok v c') :
    ((t.query x).cached? c.memory.cells = some v ∨
      (t.query x).cached? c.memory.cells = none ∧ v = now.value x) ∧
    ∀ y : TrafficLightVariable, (t.query y).cached? c'.memory.cells =
      if x = y then some v else (t.query y).cached? c.memory.cells := by
  rcases hcached : (t.query x).cached? c.memory.cells with _ | w
  · rw [ReadQuery.get_of_empty hcached] at h
    obtain ⟨_, c₁, hdispatch, hremembered⟩ := EStateM.bind_eq_ok_iff.mp h
    obtain ⟨requests, frame, reply, link, container, w, hsends, htransact, hdecode, hcarries, hmemory⟩ :=
      Action.dispatch_read_eq_ok hdispatch
    have hkept := cached_keep_of_read hmemory
    have hx := hkept x
    rw [if_pos rfl] at hx
    unfold ReadQuery.remembered at hremembered
    rw [hx] at hremembered
    cases hremembered
    exact ⟨Or.inr ⟨rfl, answers requests frame reply link _ _ hsends htransact hdecode hcarries⟩, hkept⟩
  · rw [ReadQuery.get_of_cached hcached] at h
    cases h
    refine ⟨Or.inl rfl, fun y => ?_⟩
    split
    · next hxy => exact hxy ▸ hcached
    · rfl

theorem cached_of_readFailed (h : (t.query x).get c = .error e c') :
    c'.memory.cells.cached = c.memory.cells.cached := by
  rcases hcached : (t.query x).cached? c.memory.cells with _ | w
  · rw [ReadQuery.get_of_empty hcached] at h
    rcases EStateM.bind_eq_error_iff.mp h with hdispatch | ⟨_, c₁, hdispatch, hremembered⟩
    · rw [Action.memory_of_single_error (q := .read (t.query x)) trivial hdispatch]
    · obtain ⟨_, _, _, _, _, w, -, -, -, -, hmemory⟩ := Action.dispatch_read_eq_ok hdispatch
      have hx := cached_keep_of_read hmemory x
      rw [if_pos rfl] at hx
      unfold ReadQuery.remembered at hremembered
      rw [hx] at hremembered
      cases hremembered
  · rw [ReadQuery.get_of_cached hcached] at h
    cases h

theorem cached_of_accepted {ch : Change .trafficLight} (h : (t.change ch).runWith v c = .ok () c') :
    (t.query x).cached? c'.memory.cells =
      if x ∈ outdated ch then none else (t.query x).cached? c.memory.cells := by
  rw [ChangeQuery.memory_of_ok h]
  refine (Cells.cached_forgetAll _ (ch.outdates.map t.cell) (t.cell x)).trans ?_
  have hmem : t.cell x ∈ ch.outdates.map t.cell ↔ x ∈ outdated ch :=
    List.mem_map_of_injective t.cell_injective
  simp only [hmem]
  rfl

theorem cached_of_rejected {ch : Change .trafficLight}
    (h : (t.change ch).runWith v c = .error e c') :
    c'.memory.cells.cached = c.memory.cells.cached := by
  rw [ChangeQuery.memory_of_error h]
  rfl

omit [Link σ] in
theorem cached_of_stepped (time : Binary64) (m : Memory) :
    (t.query x).cached? ((Listener.entity t).nextStep time m).cells =
      if x ∈ varying then none else (t.query x).cached? m.cells := by
  refine (Cells.cached_forgetAll m.cells (Kind.trafficLight.steppedVariables.map t.cell)
    (t.cell x)).trans ?_
  have hmem : t.cell x ∈ Kind.trafficLight.steppedVariables.map t.cell ↔ x ∈ varying :=
    List.mem_map_of_injective t.cell_injective
  simp only [hmem]
  rfl

/-! ### What is remembered -/

/-- What is remembered of the next switch is what it was when it was asked for first; what is remembered of
the other variables that vary is what the light shows. -/
theorem Watch.remembered {history : List Event} {now : Signals} (watch : Watch t history now c) :
    (t.query .nextSwitch).cached? c.memory.cells =
      (firstAsked history).map (·.value .nextSwitch) ∧
    ∀ x : TrafficLightVariable, x ≠ .nextSwitch → x ≠ .controlledLanes → ∀ v,
      (t.query x).cached? c.memory.cells = some v → v = now.value x := by
  induction watch with
  | new h =>
    refine ⟨h _, fun x _ _ v hv => ?_⟩
    rw [h x] at hv
    cases hv
  | @read history now c c' x v _ answers h ih =>
    obtain ⟨hnext, hrest⟩ := ih
    obtain ⟨hgiven, hafter⟩ := cached_of_read answers h
    constructor
    · rw [hafter]
      by_cases hx : x = .nextSwitch
      · subst hx
        rw [if_pos rfl, firstAsked]
        -- either it had been asked for before, or this was the first time
        rw [hnext] at hgiven
        rcases hfirst : firstAsked history with _ | first
        · rw [hfirst] at hgiven
          obtain ⟨-, rfl⟩ := hgiven.resolve_left nofun
          rfl
        · rw [hfirst] at hgiven
          exact (hgiven.resolve_right nofun).symm
      · rw [if_neg hx, hnext]
        cases x with
        | nextSwitch => exact absurd rfl hx
        | state | phase | program | controlledLanes => rfl
    · intro y hnot hvaries w hw
      rw [hafter] at hw
      split at hw
      · next hxy =>
        subst hxy
        cases hw
        rcases hgiven with hbefore | ⟨-, hnow⟩
        · exact hrest x hnot hvaries v hbefore
        · exact hnow
      · exact hrest y hnot hvaries w hw
  | readFailed _ h ih =>
    unfold ReadQuery.cached? at ih ⊢
    rw [cached_of_readFailed h]
    exact ih
  | @accepted history now next c c' ch v _ h rest ih =>
    obtain ⟨hnext, hrest⟩ := ih
    constructor
    · rw [cached_of_accepted h]
      cases ch with
      | phase => rfl
      | program => exact hnext
    · intro x hnot hvaries w hw
      rw [cached_of_accepted h] at hw
      split at hw
      · cases hw
      · next hkept =>
        have hunaffected : x ∉ affects ch := fun hx =>
          hkept (mem_outdated_iff.mpr ⟨hx, fun hexception => hnot hexception.2⟩)
        rw [rest x hunaffected]
        exact hrest x hnot hvaries w hw
  | rejected _ h ih =>
    unfold ReadQuery.cached? at ih ⊢
    rw [cached_of_rejected h]
    exact ih
  | stepped _ link time _ =>
    refine ⟨cached_of_stepped time _, fun x _ hvaries v hv => ?_⟩
    rw [cached_of_stepped, if_pos (mem_varying_iff.mpr hvaries)] at hv
    cases hv

/-! ### What reads give -/

theorem get_of_read {α : Type} [Readable α] {a : α} (h : t.read α x c = .ok a c') :
    ∃ v, (t.query x).get c = .ok v c' ∧ Readable.ofValue v = .ok a := by
  obtain ⟨v, c₁, hget, hvalue⟩ := EStateM.bind_eq_ok_iff.mp h
  refine ⟨v, ?_⟩
  rcases hread : (Readable.ofValue v : Except ClientError α) with e | b
  · rw [hread] at hvalue
    cases hvalue
  · rw [hread] at hvalue
    cases hvalue
    exact ⟨hget, rfl⟩

/-- A variable that varies, and is not the next switch, is given as the light shows it. -/
theorem Watch.value_of_read {history : List Event} {now : Signals} (watch : Watch t history now c)
    (answers : AnswersWith t x now c) (hnot : x ≠ .nextSwitch) (hvaries : x ≠ .controlledLanes)
    {α : Type} [Readable α] {a : α} (h : t.read α x c = .ok a c') :
    Readable.ofValue (now.value x) = .ok a := by
  obtain ⟨v, hget, hvalue⟩ := get_of_read h
  rcases (cached_of_read answers hget).1 with hcached | ⟨-, rfl⟩
  · rwa [← watch.remembered.2 x hnot hvaries v hcached]
  · exact hvalue

/-- At any time, a read of state, phase or program that succeeds gives what the light shows. So does a
read of the next switch exactly if the next switch is still what it was when it was asked for first since
the last step and the last new phase. -/
theorem reads_current {history : List Event} {now : Signals} (watch : Watch t history now c) :
    (∀ a c', AnswersWith t .state now c → t.state c = .ok a c' → a = now.state) ∧
    (∀ a c', AnswersWith t .phase now c → t.phase c = .ok a c' → a = now.phase) ∧
    (∀ a c', AnswersWith t .program now c → t.program c = .ok a c' → a = now.program) ∧
    ∀ a c', AnswersWith t .nextSwitch now c → t.nextSwitch c = .ok a c' →
      (a = now.nextSwitch ↔
        ∀ first, firstAsked history = some first → first.nextSwitch = now.nextSwitch) := by
  refine ⟨?_, ?_, ?_, ?_⟩
  · intro a c' answers h
    cases watch.value_of_read answers nofun nofun h
    rfl
  · intro a c' answers h
    cases watch.value_of_read answers nofun nofun h
    rfl
  · intro a c' answers h
    cases watch.value_of_read answers nofun nofun h
    rfl
  · intro a c' answers h
    obtain ⟨v, hget, hvalue⟩ := get_of_read h
    have hgiven := (cached_of_read answers hget).1
    rw [watch.remembered.1] at hgiven
    rcases hfirst : firstAsked history with _ | first
    · rw [hfirst] at hgiven
      obtain ⟨-, rfl⟩ := hgiven.resolve_left nofun
      cases hvalue
      exact ⟨fun _ => nofun, fun _ => rfl⟩
    · rw [hfirst] at hgiven
      cases hgiven.resolve_right nofun
      cases hvalue
      simp

/-! ### A light on a stream -/

omit [Link σ] in
/-- A stream on which an answer waits that is about the variable, and carries the value of the moment. -/
theorem answersWith_of_awaiting {c : Client Stream} {now : Signals} {rest : List (List Container)}
    {sent : Bytes}
    (hlink : c.link = { Stream.awaiting ([(t.query x).container (now.value x)] :: rest) with sent })
    (hencodes : ∃ reply, Response.encode [(t.query x).container (now.value x)] = .ok reply ∧
      reply.length ≤ Stream.maxFrame)
    (hshaped : ((t.query x).container (now.value x)).Shaped)
    (hvalue : (t.query x).valueOf ((t.query x).container (now.value x)) = .ok (now.value x)) :
    AnswersWith t x now c := by
  intro requests frame brought link container v _ htransact hdecode hcarries
  obtain ⟨reply, hreply, hmax⟩ := hencodes
  obtain ⟨hheader, hle⟩ := Frame.value_take_of_close hreply
  have hawaiting := Stream.Fluent.awaiting ([(t.query x).container (now.value x)] :: rest)
  have hfluent : c.link.Fluent := by
    rw [hlink]
    exact ⟨hawaiting.reads, hawaiting.writes, hawaiting.readLimit, hawaiting.writeLimit, hawaiting.flush⟩
  have hin : c.link.inbound = reply ++ (Stream.awaiting rest).inbound := by
    rw [hlink]
    show (Stream.awaiting ([(t.query x).container (now.value x)] :: rest)).inbound = _
    unfold Stream.awaiting
    rw [List.map_cons, List.flatten_cons, hreply]
    rfl
  obtain ⟨after, hexchange, -⟩ := Stream.exchange_of_fluent hfluent frame hin hheader hle hmax
  replace htransact : Stream.exchange frame c.link = .ok brought link := htransact
  rw [hexchange] at htransact
  cases htransact
  rw [Response.decode_encode hreply (List.forall_mem_singleton.mpr hshaped)] at hdecode
  cases hdecode
  rw [ReadQuery.valueOf_eq_ok_iff.mpr hcarries] at hvalue
  cases hvalue
  rfl

namespace Crossing

def light : TrafficLight := ⟨0, "j0"⟩

/-- The answer to a read. -/
def answer (x : TrafficLightVariable) (now : Signals) : Container := (light.query x).container (now.value x)

/-- The answer to a change that is accepted. -/
def agreed : Container := ⟨⟨Code.setTrafficLight, Code.accepted, ""⟩, .bare⟩

def before : Signals := { nextSwitch := ⟨1⟩ }

/-- What the light shows once its program is another one. -/
def reprogrammed : Signals := { program := "1", phase := 2, nextSwitch := ⟨2⟩ }

/-- A client that has just made the light. The answers to a read, a change and the same read are on their
way. -/
def start (x : TrafficLightVariable) : Client Stream where
  link := .awaiting [[answer x before], [agreed], [answer x reprogrammed]]
  memory := { nextHandle := 1 }

def asked (x : TrafficLightVariable) : Client Stream := (light.query x).get.after (start x)

def changed (x : TrafficLightVariable) : Client Stream :=
  ((light.change .program).runWith (.text "1")).after (asked x)

/-- The read is answered, and the new program is accepted. -/
theorem watch {x : TrafficLightVariable} (answers : AnswersWith light x before (start x))
    (hread : ((light.query x).get).succeedsWith (fun _ _ => true) (start x) = true)
    (hchange : ((light.change .program).runWith (.text "1")).succeedsWith (fun _ _ => true) (asked x) =
      true) :
    Watch light [.accepted .program, .read x before] reprogrammed (changed x) := by
  obtain ⟨v, c₁, hget, -⟩ := Action.of_succeedsWith hread
  obtain ⟨u, c₂, hrun, -⟩ := Action.of_succeedsWith hchange
  have hasked : asked x = c₁ := Action.after_of_ok hget
  have hchanged : changed x = c₂ := Action.after_of_ok hrun
  rw [hchanged]
  have hwatched : Watch light [.read x before] before (asked x) := by
    rw [hasked]
    exact .read (.new fun _ => rfl) answers hget
  refine .accepted hwatched hrun fun y hy => ?_
  cases y with
  | controlledLanes => rfl
  | state | phase | program | nextSwitch => exact absurd (by decide) hy

end Crossing

open Crossing in
/-- The next switch is asked for, a new program is accepted, and the next switch is asked for again. The
answer is the one of the program before, although the link would bring the right one. -/
theorem next_switch_outlives_program :
    ∃ (history : List Event) (now : Signals) (c c' : Client Stream) (a : Binary64),
      Watch light history now c ∧ AnswersWith light .nextSwitch now c ∧
      light.nextSwitch c = .ok a c' ∧ a ≠ now.nextSwitch := by
  have hbefore : AnswersWith light .nextSwitch before (start .nextSwitch) :=
    answersWith_of_awaiting (c := start .nextSwitch) rfl ⟨_, rfl, by decide +kernel⟩
      ⟨rfl, rfl, by decide⟩ rfl
  have hafter : AnswersWith light .nextSwitch reprogrammed (changed .nextSwitch) := by
    have hlink : (changed .nextSwitch).link =
        { Stream.awaiting [[answer .nextSwitch reprogrammed]] with
          sent := (changed .nextSwitch).link.sent } := by decide +kernel
    exact answersWith_of_awaiting hlink ⟨_, rfl, by decide +kernel⟩ ⟨rfl, rfl, by decide⟩ rfl
  have hagain : light.nextSwitch.succeedsWith (fun a _ => a == ⟨1⟩) (changed .nextSwitch) = true := by
    decide +kernel
  obtain ⟨a, c', hread, ha⟩ := Action.of_succeedsWith hagain
  rw [beq_iff_eq] at ha
  refine ⟨_, _, _, c', a, watch hbefore (by decide +kernel) (by decide +kernel), hafter, hread, ?_⟩
  rw [ha]
  decide

open Crossing in
/-- A phase that was asked for before is asked for anew once the program is another one. -/
theorem phase_follows_program :
    ∃ history c', Watch light history reprogrammed (changed .phase) ∧
      AnswersWith light .phase reprogrammed (changed .phase) ∧
      light.phase (changed .phase) = .ok 2 c' := by
  have hbefore : AnswersWith light .phase before (start .phase) :=
    answersWith_of_awaiting (c := start .phase) rfl ⟨_, rfl, by decide +kernel⟩
      ⟨rfl, rfl, by decide⟩ rfl
  have hafter : AnswersWith light .phase reprogrammed (changed .phase) := by
    have hlink : (changed .phase).link = { Stream.awaiting [[answer .phase reprogrammed]] with
        sent := (changed .phase).link.sent } := by decide +kernel
    exact answersWith_of_awaiting hlink ⟨_, rfl, by decide +kernel⟩ ⟨rfl, rfl, by decide⟩ rfl
  have hwatch := watch hbefore (by decide +kernel) (by decide +kernel)
  have hagain : light.phase.succeedsWith (fun _ _ => true) (changed .phase) = true := by
    decide +kernel
  obtain ⟨a, c', hread, -⟩ := Action.of_succeedsWith hagain
  obtain ⟨-, hphase, -, -⟩ := reads_current hwatch
  obtain rfl := hphase a c' hafter hread
  exact ⟨_, c', hwatch, hafter, hread⟩

end TrafficLight

end TrafficControl
