import TrafficControl.Proofs.Traffic.Detached

/-!
# The books of a run

An id enters the registry when the bootstrap finds it, when a tick reports it as departed, or when a
tick finds it active after a teleport and does not know it; of the last nothing is reported. It leaves
the registry when a tick reports it as arrived. Over a run these balance, id by id, unless a tick
reports a departure of an id that is registered, which `Tick.Orderly` rules out in terms of the
listings.

* `registersSilently_iff`: the silent registrations are what the last phase of a tick adds.
* `balance_turn`: what one tick adds and takes away.
* `Run.balance`, `Run.balance_since`: the same over the ticks since the bootstrap, and since any point.
* `events_conserved`: the balance, and what it says about repeated reports.
-/

namespace TrafficControl

namespace Tick

/-- Whoever the tick lists as active, and not as back from a teleport, was active before it or was
not registered. -/
def Orderly (t : Tick) : Prop :=
  ∀ id ∈ t.answer.active, id ∉ t.answer.teleportEnded → id ∈ t.before.live → id ∈ t.before.active

/-- The tick registers an id of which it reports no departure: the id is active, back from a teleport,
and not registered. -/
def RegistersSilently (t : Tick) (id : String) : Prop :=
  id ∈ t.answer.teleportEnded ∧ id ∈ t.answer.active ∧ id ∉ t.before.live

instance (t : Tick) (id : String) : Decidable (t.RegistersSilently id) :=
  inferInstanceAs (Decidable (_ ∧ _ ∧ _))

/-- At an orderly tick nobody departs who is registered, and at no other. -/
theorem orderly_iff {t : Tick} : t.Orderly ↔ ∀ id, ¬ t.Replaces id := by
  constructor
  · rintro horderly id ⟨hlive, hdep⟩
    obtain ⟨hactive, hbefore, hended⟩ := Lifecycle.mem_departedIds_iff.mp hdep
    exact hbefore (horderly id hactive hended hlive)
  · intro hnever id hactive hended hlive
    by_contra hbefore
    exact hnever id ⟨hlive, Lifecycle.mem_departedIds_iff.mpr ⟨hactive, hbefore, hended⟩⟩

end Tick

namespace Lifecycle

/-! ### What is counted -/

/-- One if the id is registered. -/
def presence (l : Lifecycle) (id : String) : Nat := if id ∈ l.live then 1 else 0

theorem presence_of_mem {l : Lifecycle} {id : String} (h : id ∈ l.live) : l.presence id = 1 :=
  if_pos h

theorem presence_of_not_mem {l : Lifecycle} {id : String} (h : id ∉ l.live) : l.presence id = 0 :=
  if_neg h

/-- The number of ticks that report an id as departed. -/
def departures (ticks : List Tick) (id : String) : Nat :=
  ticks.countP fun t => id ∈ t.events.departed

/-- The number of ticks that report an id as arrived. -/
def arrivals (ticks : List Tick) (id : String) : Nat :=
  ticks.countP fun t => id ∈ t.events.arrived

/-- The number of ticks that register an id silently. -/
def silentRegistrations (ticks : List Tick) (id : String) : Nat :=
  ticks.countP fun t => t.RegistersSilently id

/-- Where a lifecycle that stands at `l` stood before it went through the ticks. -/
def startOf : List Tick → Lifecycle → Lifecycle
  | [], l => l
  | t :: ticks, _ => startOf ticks t.before

theorem departures_singleton (t : Tick) (id : String) :
    departures [t] id = if id ∈ t.events.departed then 1 else 0 := by
  simp [departures, List.countP_singleton]

theorem arrivals_singleton (t : Tick) (id : String) :
    arrivals [t] id = if id ∈ t.events.arrived then 1 else 0 := by
  simp [arrivals, List.countP_singleton]

theorem silentRegistrations_singleton (t : Tick) (id : String) :
    silentRegistrations [t] id = if t.RegistersSilently id then 1 else 0 := by
  simp [silentRegistrations, List.countP_singleton]

theorem departures_append (newer older : List Tick) (id : String) :
    departures (newer ++ older) id = departures newer id + departures older id :=
  List.countP_append

theorem arrivals_append (newer older : List Tick) (id : String) :
    arrivals (newer ++ older) id = arrivals newer id + arrivals older id :=
  List.countP_append

theorem silentRegistrations_append (newer older : List Tick) (id : String) :
    silentRegistrations (newer ++ older) id =
      silentRegistrations newer id + silentRegistrations older id :=
  List.countP_append

theorem startOf_append (newer older : List Tick) (l : Lifecycle) :
    startOf (newer ++ older) l = startOf older (startOf newer l) := by
  induction newer generalizing l with
  | nil => rfl
  | cons t newer ih => exact ih t.before

/-! ### One tick -/

section Turn

variable {t : Tick} {id : String}

/-- The ids that a tick registers silently are those that its last phase adds to the registry. -/
theorem registersSilently_iff (observers : List Observer) (m : Memory) :
    t.RegistersSilently id ↔ id ∈ (afterReturns observers t.before t.answer m).1 ∧
      id ∉ (afterDepartures observers t.before t.answer m).1 := by
  rw [afterReturns, mem_registerAll_iff, mem_afterDepartures_iff]
  simp only [List.mem_filter, Std.ExtTreeSet.mem_toList, Std.ExtTreeSet.contains_iff_mem]
  constructor
  · rintro ⟨hended, hactive, hnot⟩
    refine ⟨Or.inr ⟨hended, hactive⟩, ?_⟩
    rintro (⟨hlive, -⟩ | hdep)
    · exact hnot hlive
    · exact (mem_departedIds_iff.mp hdep).2.2 hended
  · rintro ⟨hafter | ⟨hended, hactive⟩, hnot⟩
    · exact absurd hafter hnot
    · exact ⟨hended, hactive, fun hlive =>
        hnot (Or.inl ⟨hlive, not_mem_arrivedIds_of_active hactive⟩)⟩

variable {observers : List Observer} {listeners : List Listener} {m : Memory}

/-- Registered after a tick is who was and did not arrive, who departed, and who is registered
silently. -/
theorem mem_turn_live_iff_silently :
    id ∈ (turn observers listeners t.before t.answer m).1.live ↔
      (id ∈ t.before.live ∧ id ∉ t.events.arrived) ∨ id ∈ t.events.departed ∨
        t.RegistersSilently id := by
  rw [mem_turn_live_iff]
  constructor
  · rintro (hstays | hdep | ⟨hended, hactive⟩)
    · exact Or.inl hstays
    · exact Or.inr (Or.inl hdep)
    · by_cases hlive : id ∈ t.before.live
      · exact Or.inl ⟨hlive, not_mem_arrivedIds_of_active hactive⟩
      · exact Or.inr (Or.inr ⟨hended, hactive, hlive⟩)
  · rintro (hstays | hdep | ⟨hended, hactive, -⟩)
    · exact Or.inl hstays
    · exact Or.inr (Or.inl hdep)
    · exact Or.inr (Or.inr ⟨hended, hactive⟩)

/-- Who arrives neither departs nor is registered silently at the same tick. -/
theorem not_registered_of_arrived (harr : id ∈ t.events.arrived) :
    id ∉ t.events.departed ∧ ¬ t.RegistersSilently id := by
  have hactive := (mem_arrivedIds_iff.mp harr).1
  exact ⟨fun hdep => hactive (mem_departedIds_iff.mp hdep).1, fun hsilent => hactive hsilent.2.1⟩

/-- The books of one tick, for one id. The active ids have to be registered before it: else an
arrival would be reported of an id that is not there to leave. -/
theorem balance_turn (hregistered : ∀ x ∈ t.before.active, x ∈ t.before.live)
    (horderly : t.Orderly) :
    t.before.presence id + departures [t] id + silentRegistrations [t] id =
      (turn observers listeners t.before t.answer m).1.presence id + arrivals [t] id := by
  have harr : id ∈ t.events.arrived → id ∈ t.before.live := registered_of_arrived hregistered
  have harr' : id ∈ t.events.arrived → id ∉ t.events.departed ∧ ¬ t.RegistersSilently id :=
    not_registered_of_arrived
  have hdep : id ∈ t.events.departed → id ∉ t.before.live ∧ ¬ t.RegistersSilently id := fun h =>
    ⟨fun hlive => Tick.orderly_iff.mp horderly id ⟨hlive, h⟩,
      fun hsilent => (mem_departedIds_iff.mp h).2.2 hsilent.1⟩
  have hsilent : t.RegistersSilently id → id ∉ t.before.live := fun h => h.2.2
  rw [departures_singleton, silentRegistrations_singleton, arrivals_singleton]
  unfold presence
  simp only [mem_turn_live_iff_silently]
  grind

end Turn

/-! ### Runs -/

section Runs

variable {σ : Type} [Link σ] {others : Memory → Memory → Prop} {ticks : List Tick} {l : Lifecycle}
  {c : Client σ}

variable (σ) in
/-- A bootstrap of an empty lifecycle leaves it like this. One that fails registers nobody. -/
def LeftByBootstrap (l : Lifecycle) : Prop :=
  ∃ (handle : Handle) (c : Client σ),
    (∃ c', bootstrap { handle } c = .ok l c') ∨
      ∃ e c', bootstrap { handle } c = .error e c' ∧ l = { handle }

/-- What a run goes back to is what the bootstrap left. -/
theorem Run.startOf_leftByBootstrap (run : Run others ticks l c) :
    LeftByBootstrap σ (startOf ticks l) := by
  induction run with
  | bootstrapped h => exact ⟨_, _, Or.inl ⟨_, h⟩⟩
  | bootstrapFailed h => exact ⟨_, _, Or.inr ⟨_, _, h, rfl⟩⟩
  | advanced _ _ _ _ ih => exact ih
  | failed _ _ ih => exact ih
  | elsewhere _ _ ih => exact ih

/-- The ticks of a run are the calls that succeeded, with what they reported. -/
theorem Run.reported (run : Run others ticks l c) {t : Tick} (ht : t ∈ ticks) :
    ∃ target observers listeners l' c₀ c₁,
      t.before.advance target observers listeners (c₀ : Client σ) = .ok (t.events, l') c₁ := by
  induction run with
  | bootstrapped => cases ht
  | bootstrapFailed => cases ht
  | advanced _ _ hask h ih =>
    rcases List.mem_cons.mp ht with rfl | ht
    · obtain ⟨rfl, -, -⟩ := advance_eq_ok_of_ask hask h
      exact ⟨_, _, _, _, _, _, h⟩
    · exact ih ht
  | failed _ _ ih => exact ih ht
  | elsewhere _ _ ih => exact ih ht

/-- A run has gone through every point that lies behind it. -/
theorem Run.upTo {newer older : List Tick} (run : Run others (newer ++ older) l c) :
    ∃ c₀ : Client σ, Run others older (startOf newer l) c₀ := by
  generalize hticks : newer ++ older = ticks at run
  induction run generalizing newer with
  | bootstrapped h =>
    obtain ⟨rfl, rfl⟩ := List.append_eq_nil_iff.mp hticks
    exact ⟨_, .bootstrapped h⟩
  | bootstrapFailed h =>
    obtain ⟨rfl, rfl⟩ := List.append_eq_nil_iff.mp hticks
    exact ⟨_, .bootstrapFailed h⟩
  | advanced run heed hask h ih =>
    cases newer with
    | nil =>
      rw [List.nil_append] at hticks
      rw [hticks]
      exact ⟨_, run.advanced heed hask h⟩
    | cons t newer =>
      obtain ⟨rfl, hrest⟩ := List.cons_eq_cons.mp hticks
      exact ih hrest
  | failed _ _ ih => exact ih hticks
  | elsewhere _ _ ih => exact ih hticks

/-- The books of a run since its bootstrap. -/
theorem Run.balance (run : Run others ticks l c) (horderly : ∀ t ∈ ticks, t.Orderly) (id : String) :
    (startOf ticks l).presence id + departures ticks id + silentRegistrations ticks id =
      l.presence id + arrivals ticks id := by
  induction run with
  | bootstrapped => rfl
  | bootstrapFailed => rfl
  | @advanced ticks l _ _ c₁ _ _ observers listeners a _ run _ hask h ih =>
    obtain ⟨hnow, hbefore⟩ := List.forall_mem_cons.mp horderly
    obtain ⟨-, rfl, -⟩ := advance_eq_ok_of_ask hask h
    have hold := ih hbefore
    have hnew : l.presence id + departures [⟨l, a⟩] id + silentRegistrations [⟨l, a⟩] id =
        (turn observers listeners l a c₁.memory).1.presence id + arrivals [⟨l, a⟩] id :=
      balance_turn run.tracked.registered hnow
    rw [← List.singleton_append, startOf_append, departures_append, silentRegistrations_append,
      arrivals_append]
    show (startOf ticks l).presence id + _ + _ = _
    omega
  | failed _ _ ih => exact ih horderly
  | elsewhere _ _ ih => exact ih horderly

/-- The books of a run since any earlier point of it. -/
theorem Run.balance_since {newer older : List Tick} (run : Run others (newer ++ older) l c)
    (horderly : ∀ t ∈ newer ++ older, t.Orderly) (id : String) :
    (startOf newer l).presence id + departures newer id + silentRegistrations newer id =
      l.presence id + arrivals newer id := by
  obtain ⟨c₀, earlier⟩ := run.upTo
  have hwhole := run.balance horderly id
  have hpart := earlier.balance (fun t ht => horderly t (List.mem_append_right _ ht)) id
  rw [startOf_append, departures_append, silentRegistrations_append, arrivals_append] at hwhole
  omega

/-- A run that has a tick stands where its latest tick took it. -/
theorem Run.at_turn {t : Tick} (run : Run others (t :: ticks) l c) :
    ∃ observers listeners m, l = (turn observers listeners t.before t.answer m).1 := by
  generalize hticks : t :: ticks = all at run
  induction run with
  | bootstrapped => cases hticks
  | bootstrapFailed => cases hticks
  | advanced _ _ hask h =>
    obtain ⟨rfl, -⟩ := List.cons_eq_cons.mp hticks
    exact ⟨_, _, _, (advance_eq_ok_of_ask hask h).2.1⟩
  | failed _ _ ih => exact ih hticks
  | elsewhere _ _ ih => exact ih hticks

/-- Who arrived at the latest tick is not registered. -/
theorem Run.not_live_of_arrived {t : Tick} (run : Run others (t :: ticks) l c) {id : String}
    (harr : id ∈ t.events.arrived) : id ∉ l.live := by
  obtain ⟨observers, listeners, m, rfl⟩ := run.at_turn
  obtain ⟨hdep, hsilent⟩ := not_registered_of_arrived harr
  rw [mem_turn_live_iff_silently]
  rintro (⟨-, hnot⟩ | h | h)
  · exact hnot harr
  · exact hdep h
  · exact hsilent h

/-- Who has arrived and is registered has been registered since. -/
theorem Run.registered_since {between older : List Tick} {u : Tick}
    (run : Run others (between ++ u :: older) l c)
    (horderly : ∀ t ∈ between ++ u :: older, t.Orderly) {id : String}
    (harr : id ∈ u.events.arrived) (hlive : id ∈ l.live) :
    ∃ r ∈ between, id ∈ r.events.departed ∨ r.RegistersSilently id := by
  obtain ⟨c₀, earlier⟩ := run.upTo
  have hbalance := run.balance_since horderly id
  rw [presence_of_not_mem (earlier.not_live_of_arrived harr), presence_of_mem hlive] at hbalance
  have hpos : 0 < departures between id ∨ 0 < silentRegistrations between id := by omega
  rcases hpos with hpos | hpos
  · obtain ⟨r, hr, hdep⟩ := List.countP_pos_iff.mp hpos
    exact ⟨r, hr, Or.inl (of_decide_eq_true hdep)⟩
  · obtain ⟨r, hr, hsilent⟩ := List.countP_pos_iff.mp hpos
    exact ⟨r, hr, Or.inr (of_decide_eq_true hsilent)⟩

/-- Between two ticks at which an id arrives it is registered. -/
theorem Run.registered_between {newer between older : List Tick} {t u : Tick}
    (run : Run others (newer ++ t :: (between ++ u :: older)) l c)
    (horderly : ∀ r ∈ newer ++ t :: (between ++ u :: older), r.Orderly) {id : String}
    (hlater : id ∈ t.events.arrived) (hearlier : id ∈ u.events.arrived) :
    ∃ r ∈ between, id ∈ r.events.departed ∨ r.RegistersSilently id := by
  rw [List.append_cons] at run horderly
  obtain ⟨c₁, before⟩ := run.upTo
  rw [startOf_append] at before
  exact before.registered_since (fun r hr => horderly r (List.mem_append_right _ hr)) hearlier
    (registered_of_arrived before.tracked.registered hlater)

/-- In a run of orderly ticks, (1) for every id, what the bootstrap registered, plus the reported
departures, plus the silent registrations, minus the reported arrivals, is one if the id is registered
and zero if not; (2) every tick that is counted is a call that succeeded and reported these events,
each id at most once, and nobody as departed who was registered; and (3) an id that is reported as
arrived at two ticks is registered at one between them. -/
theorem events_conserved (run : Run others ticks l c) (horderly : ∀ t ∈ ticks, t.Orderly) :
    LeftByBootstrap σ (startOf ticks l) ∧
    (∀ id, ((startOf ticks l).presence id : Int) + departures ticks id + silentRegistrations ticks id -
      arrivals ticks id = if id ∈ l.live then 1 else 0) ∧
    (∀ t ∈ ticks, t.events.departed.Nodup ∧ t.events.arrived.Nodup ∧
      (∃ target observers listeners l' c₀ c₁,
        t.before.advance target observers listeners (c₀ : Client σ) = .ok (t.events, l') c₁) ∧
      ∀ id ∈ t.events.departed, id ∉ t.before.live) ∧
    ∀ newer t between u older, ticks = newer ++ t :: (between ++ u :: older) →
      ∀ id, id ∈ t.events.arrived → id ∈ u.events.arrived →
        ∃ r ∈ between, id ∈ r.events.departed ∨ r.RegistersSilently id := by
  refine ⟨run.startOf_leftByBootstrap, ?_, ?_, ?_⟩
  · intro id
    have hbalance := run.balance horderly id
    have hpresence : (l.presence id : Int) = if id ∈ l.live then 1 else 0 := by
      unfold presence
      split <;> rfl
    omega
  · intro t ht
    exact ⟨nodup_departedIds _ _, nodup_arrivedIds _ _, run.reported ht, fun id hdep hlive =>
      Tick.orderly_iff.mp (horderly t ht) id ⟨hlive, hdep⟩⟩
  · rintro newer t between u older rfl id hlater hearlier
    exact run.registered_between horderly hlater hearlier

/-- An id whose arrival is reported, but no departure, was registered silently. -/
theorem returned_vehicle_registered_silently :
    ∃ ticks l, ∃ c : Client Stream, Run (fun _ _ => False) ticks l c ∧ (∀ t ∈ ticks, t.Orderly) ∧
      departures ticks "v1" = 0 ∧ arrivals ticks "v1" = 1 ∧ silentRegistrations ticks "v1" = 1 := by
  have hplay : (bootstrap { handle := 0 }).succeedsWith (fun l =>
      (l.advance .zero [] []).succeedsWith fun r c =>
        !l.live.contains "v1" && !l.live.contains "v2" && r.1.departed == ["v2"] &&
          r.1.arrived == [] && (r.2.advance .zero [] []).succeedsWith (fun r _ =>
            r.1.departed == [] && r.1.arrived == ["v1"] && !r.2.live.contains "v1") c)
      ({ link := .awaiting [bootstrapReply { handle := 0 } { active := ["v0"] },
        tickReply { handle := 0 } { active := ["v0", "v1", "v2"], teleportEnded := ["v1"] },
        tickReply { handle := 0 } { active := ["v0", "v2"] }] } : Client Stream) = true := by
    decide +kernel
  obtain ⟨l₁, c₁, hboot, hplay⟩ := Action.of_succeedsWith hplay
  obtain ⟨⟨events₂, l₂⟩, c₂, hadvance₂, hplay⟩ := Action.of_succeedsWith hplay
  simp only [Bool.and_eq_true, beq_iff_eq, Bool.not_eq_true', ← Bool.not_eq_true,
    Std.ExtTreeMap.contains_iff_mem] at hplay
  obtain ⟨⟨⟨⟨hv1, hv2⟩, hdeparted₂⟩, harrived₂⟩, hplay⟩ := hplay
  obtain ⟨⟨events₃, l₃⟩, c₃, hadvance₃, htest⟩ := Action.of_succeedsWith hplay
  simp only [Bool.and_eq_true, beq_iff_eq, Bool.not_eq_true', ← Bool.not_eq_true,
    Std.ExtTreeMap.contains_iff_mem] at htest
  obtain ⟨⟨hdeparted₃, harrived₃⟩, hgone⟩ := htest
  obtain ⟨a₂, rfl, run₂⟩ := (Run.bootstrapped hboot).tick (.nobody fun _ _ => False) hadvance₂
  obtain ⟨a₃, rfl, run₃⟩ := run₂.tick (.nobody fun _ _ => False) hadvance₃
  have horderly : ∀ t ∈ [(⟨l₂, a₃⟩ : Tick), ⟨l₁, a₂⟩], t.Orderly := by
    simp only [List.forall_mem_cons, Tick.orderly_iff, Tick.Replaces, Tick.events, hdeparted₂,
      hdeparted₃]
    refine ⟨fun id h => absurd h.2 List.not_mem_nil, ?_, fun t ht => absurd ht List.not_mem_nil⟩
    rintro id ⟨hlive, hid⟩
    obtain rfl := List.mem_singleton.mp hid
    exact hv2 hlive
  have hdepartures : departures [⟨l₂, a₃⟩, ⟨l₁, a₂⟩] "v1" = 0 := by
    simp [departures, Tick.events, hdeparted₂, hdeparted₃]
  have harrivals : arrivals [⟨l₂, a₃⟩, ⟨l₁, a₂⟩] "v1" = 1 := by
    simp [arrivals, Tick.events, harrived₂, harrived₃]
  have hbalance := (events_conserved run₃ horderly).2.1 "v1"
  have hstart : (startOf [⟨l₂, a₃⟩, ⟨l₁, a₂⟩] l₃).presence "v1" = 0 := presence_of_not_mem hv1
  rw [hstart, hdepartures, harrivals, if_neg hgone] at hbalance
  exact ⟨_, l₃, c₃, run₃, horderly, hdepartures, harrivals, by omega⟩

end Runs

end Lifecycle

end TrafficControl
