import TrafficControl.Proofs.CommandLine.Parts
import TrafficControl.Proofs.Traffic.Replies

/-!
# What a session asks, from its start to its end

A session asks the questions of a visit in their order and nothing else, as far as it gets: until all of
them are answered, or one is refused. It succeeds just in the first case. What is printed are the lines of
the ticks that were answered, whatever comes after.

* `talks_runSteps`: the rounds of a session.
* `talks_run`: a session.
* `run_follows_script`: what a session sends over a stream, and how it ends.
-/

namespace TrafficControl

namespace Session

variable {σ : Type} [Link σ]

omit [Link σ] in
theorem lines_append (before : Array String) (lines more : List String) :
    before ++ lines ++ more = before ++ (lines ++ more) := by
  apply Array.ext'
  simp

/-- The rounds of a session. The line of a step is printed before anything else is asked. -/
theorem talks_runSteps (json : Bool) (steps : Nat) {s : Simulation} (hs : s.Ours) (before : Array String) :
    Talks (σ := σ) Console.client (fun c => Plain c.client.memory ∧ c.lines = before)
      (runSteps json steps s)
      (fun xs _ c => (∃ lines, Round.Completes s.stepLength steps json s.lifecycle xs lines ∧
        c.lines = before ++ lines) ∧ Plain c.client.memory)
      fun xs q c => ∃ lines, Round.BreaksOff s.stepLength steps json s.lifecycle xs q lines ∧
        c.lines = before ++ lines := by
  induction steps generalizing s before with
  | zero =>
    refine Talks.pure ?_
    rintro c ⟨hplain, rfl⟩
    exact ⟨⟨[], Round.completes_nil, by simp⟩, hplain⟩
  | succ steps ih =>
    unfold runSteps
    refine Talks.ask_bind ((Simulation.asks_step hs).act_ask before) ?_ ?_
    · rintro c ⟨-, rfl⟩
      exact ⟨[], Round.breaksOff_tick s.lifecycle, by simp⟩
    rintro a ⟨events, s'⟩
    apply Talks.by_state
    rintro c ⟨⟨⟨rfl, hs', hlength, hfleet⟩, hmemory⟩, hlines⟩
    refine ⟨fun c => (s'.minExpectedQuery.cached? c.client.memory.cells = none ∧ Plain c.client.memory) ∧
      c.lines = before, ⟨hmemory, hlines⟩, ?_⟩
    -- the line of the tick stands printed before the next question is asked
    refine Talks.silent_bind (silent_print (P := fun c => s'.minExpectedQuery.cached? c.memory.cells = none ∧
      Plain c.memory) before ((s.lifecycle.events a).report json)) ?_
    intro _
    refine Talks.ask_bind ((Simulation.asks_minExpected hs').act_ask _) ?_ ?_
    · rintro c ⟨-, hlines⟩
      exact ⟨_, Round.breaksOff_expected s.lifecycle a, hlines⟩
    intro n k
    apply Talks.by_state
    rintro c ⟨⟨rfl, hplain⟩, hlines⟩
    refine ⟨fun c => Plain c.client.memory ∧ c.lines = before ++ (s.lifecycle.events a).report json,
      ⟨hplain, hlines⟩, ?_⟩
    by_cases hk : k = 0
    · subst hk
      rw [if_pos rfl]
      apply Talks.silent_bind ((silent_log _ (P := Plain) fun _ h => h).act_silent _)
      intro _
      apply Talks.pure
      rintro c ⟨hplain, hlines⟩
      exact ⟨⟨_, Round.completes_last s.lifecycle a, hlines⟩, hplain⟩
    · rw [if_neg hk]
      refine (ih hs' _).mono (fun _ => id) ?_ ?_
      · rintro xs _ c ⟨⟨lines, hdone, hlines⟩, hplain⟩
        rw [hlength] at hdone
        refine ⟨⟨_, (hdone.congr hfleet).cons hk, ?_⟩, hplain⟩
        rw [hlines, lines_append]
      · rintro xs q c ⟨lines, hbroken, hlines⟩
        rw [hlength] at hbroken
        refine ⟨_, (hbroken.congr hfleet).cons hk, ?_⟩
        rw [hlines, lines_append]

/-! ### Whole sessions -/

omit [Link σ] in
/-- Logging what vehicles do leaves a simulation one of a session. -/
theorem ours_logging {s : Simulation} (hs : s.Ours) (json : Bool) :
    (if json then s else s.addObserver .logging).Ours := by
  cases json with
  | true => exact hs
  | false =>
    refine ⟨hs.handle_eq, hs.lifecycle_eq, hs.listeners_eq, ?_⟩
    intro o ho
    rcases List.mem_append.mp ho with ho | ho
    · exact hs.observers_heed o ho
    · rw [List.mem_singleton.mp ho]
      intro notice m
      show Memory.SameTerms m (notice.logRecord?.elim m m.addLog)
      cases notice.logRecord? with
      | none => exact .refl m
      | some r => exact Memory.SameTerms.lasting.addLog r m

omit [Link σ] in
theorem lifecycle_logging (s : Simulation) (json : Bool) :
    (if json then s else s.addObserver .logging).lifecycle = s.lifecycle := by
  cases json <;> rfl

omit [Link σ] in
theorem stepLength_logging (s : Simulation) (json : Bool) :
    (if json then s else s.addObserver .logging).stepLength = s.stepLength := by
  cases json <;> rfl

/-- A session asks what a visit settles, and prints the lines of the steps that were answered. -/
theorem talks_run (given : Option Binary64) (steps : Nat) (json : Bool) :
    Talks (σ := σ) Console.client (fun c => c.client.memory = {} ∧ c.lines = #[]) (run given steps json)
      (fun xs _ c => Completes given steps json xs c.lines.toList)
      fun xs q c => BreaksOff given steps json xs q c.lines.toList := by
  unfold run
  refine Talks.bind (((Simulation.talks_start given steps json).act _).mono (fun _ => id)
    (fun _ _ _ => id) ?_) ?_
  · rintro xs q c ⟨hbroken, hlines⟩
    rwa [hlines]
  intro xs s
  apply Talks.by_state
  rintro c ⟨⟨⟨time, active, rfl, hfleet⟩, hlength, hs, hmemory⟩, hlines⟩
  refine ⟨fun c => (Plain c.client.memory ∧ c.client.memory.cells.versions = ∅) ∧ c.lines = #[],
    ⟨hmemory, hlines⟩, ?_⟩
  refine Talks.ask_bind ((Simulation.asks_version hs).act_ask _) ?_ ?_
  · rintro c ⟨-, hlines⟩
    rw [hlines, List.append_nil]
    exact breaksOff_version hlength steps json time active
  rintro version ⟨level, text⟩
  have hpreamble : ∀ xs : List Exchange,
      opening given s.stepLength ++ [⟨.bootstrap, (time, active)⟩] ++ ⟨.version, version⟩ :: xs =
        preamble given s.stepLength time active version ++ xs := by
    intro xs
    simp [preamble]
  apply Talks.by_state
  rintro c ⟨⟨-, hplain⟩, hlines⟩
  refine ⟨fun c => Plain c.client.memory ∧ c.lines = #[], ⟨hplain, hlines⟩, ?_⟩
  apply Talks.silent_bind ((silent_log _ (P := Plain) fun _ h => h).act_silent _)
  intro _
  have hrounds := talks_runSteps (σ := σ) json steps (ours_logging hs json) #[]
  rw [lifecycle_logging, stepLength_logging] at hrounds
  refine Talks.bind (hrounds.mono (fun _ => id) (fun _ _ _ => id) ?_) ?_
  · rintro xs q c ⟨lines, hbroken, hlines⟩
    rw [hpreamble, hlines]
    simpa using (hbroken.congr hfleet).session hlength version
  intro xs s'
  apply Talks.by_state
  rintro c ⟨⟨lines, hdone, hlines⟩, hplain⟩
  refine ⟨fun c => Plain c.client.memory ∧ c.lines = #[] ++ lines, ⟨hplain, hlines⟩, ?_⟩
  apply Talks.silent_bind silent_get
  intro _
  apply Talks.silent_bind ((silent_log _ (P := Plain) fun _ h => h).act_silent _)
  intro _
  refine (Simulation.asks_close.act_ask _).mono (fun _ => id) ?_ ?_
  · rintro xs _ c ⟨b, rfl, -, hlines⟩
    rw [hpreamble, hlines]
    simpa using (hdone.congr hfleet).session hlength version
  · rintro xs q c ⟨rfl, rfl, -, hlines⟩
    rw [hpreamble, List.append_nil, hlines]
    simpa using (hdone.congr hfleet).breaksOff hlength version

/-! ### Sessions over a stream -/

/-- What a session over a stream has come to that has been through a whole visit. -/
structure Visit.Completed (given : Option Binary64) (json : Bool) (v : Visit) (start : Stream)
    (c : Console Stream) : Prop where
  /-- Every question got its answer. -/
  converses : Converses start (v.exchanges given) c.client.link
  sent_eq : c.client.link.sent = start.sent ++ frames (v.exchanges given)
  /-- The replies are what came in. -/
  heard : ∃ replies, List.Forall₂ Exchange.AnsweredBy (v.exchanges given) replies ∧
    start.inbound = replies.flatten ++ c.client.link.inbound
  roundTrips_eq : c.client.roundTrips = 2 * v.rounds.length + 3 + if given = none then 1 else 0
  lines_eq : c.lines.toList = v.lines json (v.exchanges given)

/-- What a session over a stream has come to that broke off with a question after these exchanges. -/
structure Visit.BrokenOff (given : Option Binary64) (json : Bool) (v : Visit) (start : Stream)
    (c : Console Stream) (answered : List Exchange) (q : Question) : Prop where
  /-- The question is the next one of the visit. -/
  next : ∃ (a : q.Answer) (later : List Exchange), v.exchanges given = answered ++ ⟨q, a⟩ :: later
  /-- It was refused, after all the others had got their answers. -/
  refused : ∃ l, Converses start answered l ∧ Refuses q l c.client.link
  /-- Nothing was sent after it, and all of it unless writing failed. -/
  sent_eq : ∃ part, part <+: q.frame ∧ c.client.link.sent = start.sent ++ frames answered ++ part ∧
    (start.Fluent → part = q.frame)
  lines_eq : c.lines.toList = v.lines json answered

/-- A session asks the questions of some visit in their order: the length of a step unless it is given,
the vehicles that are there, the version, then in each round a tick, which goes on from the time that was
told last by the length of a step, and the number of expected vehicles, and at the end to shut down. There
are as many rounds as are wanted, or fewer if nobody is expected any more after the last one
(`Visit.Fits`). Either all of this is sent and answered, or the session fails with the first question that
is refused, and sends nothing more. As JSON a line is printed for each tick that was answered, and otherwise
one for each of these at which something happened (`printed`). A session succeeds just if the stream goes
through a whole visit with it. -/
theorem run_follows_script (given : Option Binary64) (steps : Nat) (json : Bool) (start : Stream) :
    (∃ v : Visit, v.Fits given steps ∧
      match run given steps json { client := { link := start } } with
      | .ok () c => v.Completed given json start c
      | .error _ c => ∃ answered q, v.BrokenOff given json start c answered q) ∧
    ((∃ c, run given steps json { client := { link := start } } = .ok () c) ↔
      ∃ (v : Visit) (l : Stream), v.Fits given steps ∧ Converses start (v.exchanges given) l) := by
  obtain ⟨hok, herror⟩ :=
    talks_run (σ := Stream) given steps json { client := { link := start } } ⟨rfl, rfl⟩
  rcases hrun : run given steps json { client := { link := start } } with ⟨⟨⟩, c⟩ | ⟨e, c⟩
  · obtain ⟨xs, hconverses, htrips, v, hfits, rfl, hlines⟩ := hok () c hrun
    obtain ⟨replies, hanswered, -, hmoves⟩ := hconverses.moves
    have hcompleted : v.Completed given json start c :=
      { converses := hconverses
        sent_eq := hmoves.sent_eq
        heard := ⟨replies, hanswered, hmoves.inbound_eq⟩
        roundTrips_eq := by rw [htrips, v.length_exchanges, Nat.zero_add]
        lines_eq := hlines }
    exact ⟨⟨v, hfits, hcompleted⟩, fun _ => ⟨v, c.client.link, hfits, hconverses⟩, fun _ => ⟨c, rfl⟩⟩
  · obtain ⟨answered, q, l, hconverses, hrefuses, v, a, later, hfits, hsplit, hlines⟩ := herror e c hrun
    obtain ⟨replies, -, -, hmoves⟩ := hconverses.moves
    obtain ⟨part, hpart, hsent, hfluent⟩ := hrefuses.sent
    have hbroken : v.BrokenOff given json start c answered q :=
      { next := ⟨a, later, hsplit⟩
        refused := ⟨l, hconverses, hrefuses⟩
        sent_eq := ⟨part, hpart, by rw [hsent, hmoves.sent_eq], fun h => hfluent (hconverses.fluent h)⟩
        lines_eq := hlines }
    refine ⟨⟨v, hfits, answered, q, hbroken⟩, ?_, ?_⟩
    · rintro ⟨c', hc'⟩
      cases hc'
    · rintro ⟨w, l', hw, hthrough⟩
      have halike := hfits.alike hw
      rw [hsplit] at halike
      exact absurd hrefuses (halike.not_refuses hthrough hconverses)

/-! Three steps are wanted, but after the second one nobody is expected any more. Nothing happens in the first
one; in the second one a vehicle arrives. -/

namespace EarlyEnd

/-- The reply to a read of the simulation as a whole. -/
def whole (code : UInt8) (v : Value) : List Container :=
  [(Simulation.wholeQuery Question.whole 0 code v.type).container v]

def one : Binary64 := ⟨0x3ff0000000000000⟩

def two : Binary64 := ⟨0x4000000000000000⟩

def replies : List (List Container) :=
  [whole Code.stepLength (.double one),
    Question.lifecycle.bootstrapReply { active := ["v0"] },
    [⟨⟨Code.getVersion, Code.accepted, ""⟩,
      .single ⟨Code.getVersion, (Emission.int32 21 ++ .text "S").bytes⟩⟩],
    Question.lifecycle.tickReply { time := one, active := ["v0"] },
    whole Code.minExpected (.int 1),
    Question.lifecycle.tickReply { time := two },
    whole Code.minExpected (.int 0),
    [⟨⟨Code.close, Code.accepted, ""⟩, .bare⟩]]

def session (json : Bool) : EStateM.Result ClientError (Console Stream) Unit :=
  run none 3 json { client := { link := Stream.awaiting replies } }

/-- The session is over after two rounds, with these lines printed. It has taken all that was there to be
read. -/
def Ends (json : Bool) (lines : List String) : Prop :=
  ∃ (v : Visit) (c : Console Stream), session json = .ok () c ∧ v.Fits none 3 ∧
    v.Completed none json (Stream.awaiting replies) c ∧ v.rounds.length = 2 ∧
    c.client.link.inbound = [] ∧ c.lines.toList = lines

/-- Whether a session comes to its end like this. -/
def comesTo (json : Bool) (lines : List String) : Bool :=
  match session json with
  | .ok () c => c.client.roundTrips == 8 && c.client.link.inbound == [] && c.lines.toList == lines
  | .error _ _ => false

end EarlyEnd

open EarlyEnd in
/-- As JSON both steps have a line, otherwise only the second one has. -/
theorem early_end_after_two_rounds :
    Ends true [
      "\x7b\"time\":1.0,\"departed\":[],\"arrived\":[],\"teleport_started\":[],\"teleport_ended\":[]\x7d",
      "\x7b\"time\":2.0,\"departed\":[],\"arrived\":[\"v0\"],\"teleport_started\":[],\"teleport_ended\":[]\x7d"] ∧
    Ends false ["t=    2.00  +0   -1   teleports 0/0"] := by
  have hends : ∀ json lines, comesTo json lines = true → Ends json lines := by
    intro json lines hplay
    unfold comesTo at hplay
    obtain ⟨⟨v, hfits, hcourse⟩, -⟩ := run_follows_script none 3 json (Stream.awaiting replies)
    rcases hsession : session json with ⟨⟨⟩, c⟩ | ⟨e, c⟩
    · have hrun : run none 3 json { client := { link := Stream.awaiting replies } } = .ok () c := hsession
      rw [hrun] at hcourse
      rw [hsession] at hplay
      simp only [Bool.and_eq_true, beq_iff_eq] at hplay
      obtain ⟨⟨htrips, hinbound⟩, hlines⟩ := hplay
      have hrounds := hcourse.roundTrips_eq
      rw [htrips, if_pos rfl] at hrounds
      exact ⟨v, c, hsession, hfits, hcourse, by omega, hinbound, hlines⟩
    · rw [hsession] at hplay
      cases hplay
  constructor
  · apply hends
    decide +kernel
  · apply hends
    decide +kernel

end Session

end TrafficControl
