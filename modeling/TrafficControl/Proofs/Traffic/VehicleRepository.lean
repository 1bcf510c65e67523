import TrafficControl.Proofs.Traffic.Detached
import TrafficControl.Proofs.Traffic.Roles

/-!
# The vehicle repository of a simulation

The lifecycle registers vehicles at every tick; the vehicle repository is brought in line only when
it is asked for something, and keeps the object of every id that is still listed. An id that left and
departed again between two listings is listed both times. Its new object is registered, but the
repository goes on to give the old one.

* `object_current_iff`: an object that the repository gives is the registered one, and not retired,
  exactly if its id neither arrived nor departed since the repository took the object over.
-/

namespace TrafficControl

/-- The ids that arrive or depart at a tick. -/
def Tick.Moves (t : Tick) (id : String) : Prop := id ∈ t.events.arrived ∨ id ∈ t.events.departed

namespace Simulation

variable {σ : Type} [Link σ]

/-! ### Runs -/

/-- What happens in a run: ticks that went well, and listings that went well. -/
inductive Event where
  | tick (t : Tick)
  /-- The vehicle repository was brought in line with the ids listed while the lifecycle stood at
  `l`. -/
  | listed (l : Lifecycle) (ids : List String)

/-- The simulator lists the vehicles that were active at the last tick. -/
def Event.Truthful : Event → Prop
  | .tick _ => True
  | .listed l ids => ∀ id, id ∈ ids ↔ id ∈ l.active

/-- `Run events s c`: a simulation has come to stand at `s` while its client has become `c`, by steps
and listings of the vehicle repository, successful or not; `events` are those that went well, the
latest first. -/
inductive Run : List Event → Simulation → Client σ → Prop
  | started {stepLength : Option Binary64} {c c' : Client σ} {s : Simulation}
      (tidy : c.memory.Tidy) (h : start stepLength c = .ok s c') : Run [] s c'
  | stepped {events : List Event} {s s' : Simulation} {c c₁ c' : Client σ} {target : Binary64}
      {a : TickAnswer} {said : StepEvents} (run : Run events s c)
      (hask : s.lifecycle.ask target c = .ok a c₁) (h : s.stepTo target c = .ok (said, s') c') :
      Run (.tick ⟨s.lifecycle, a⟩ :: events) s' c'
  | stepFailed {events : List Event} {s : Simulation} {c c' : Client σ} {target : Binary64}
      {e : ClientError} (run : Run events s c) (h : s.stepTo target c = .error e c') :
      Run events s c'
  | listed {events : List Event} {s : Simulation} {c c' : Client σ} {ids : List String}
      (run : Run events s c) (h : s.vehicles.ids s.findVehicle c = .ok ids c') :
      Run (.listed s.lifecycle ids :: events) s c'
  | listFailed {events : List Event} {s : Simulation} {c c' : Client σ} {e : ClientError}
      (run : Run events s c) (h : s.vehicles.ids s.findVehicle c = .error e c') : Run events s c'

/-- The ticks since the vehicle repository took over the object that it holds for an id, if it holds
one. -/
def heldSince (id : String) : List Event → Option (List Tick)
  | [] => none
  | .tick t :: events => (heldSince id events).map (t :: ·)
  | .listed _ ids :: events => if id ∈ ids then some ((heldSince id events).getD []) else none

/-! ### What calls do -/

theorem stepTo_eq_ok {s s' : Simulation} {c c' : Client σ} {target : Binary64} {said : StepEvents}
    (h : s.stepTo target c = .ok (said, s') c') :
    ∃ l', s.lifecycle.advance target s.observers s.allListeners c = .ok (said, l') c' ∧
      s' = { s with lifecycle := l' } := by
  obtain ⟨⟨said', l'⟩, c₁, hadvance, h⟩ := EStateM.bind_eq_ok_iff.mp h
  cases h
  exact ⟨l', hadvance, rfl⟩

theorem stepTo_eq_error {s : Simulation} {c c' : Client σ} {target : Binary64} {e : ClientError}
    (h : s.stepTo target c = .error e c') : Memory.SameButCells c.memory c'.memory := by
  rcases hadvance : s.lifecycle.advance target s.observers s.allListeners c with
    ⟨⟨said, l'⟩, c₁⟩ | ⟨e', c₁⟩
  · rw [stepTo, EStateM.bind_of_ok hadvance] at h
    cases h
  · rw [stepTo, EStateM.bind_of_error hadvance] at h
    cases h
    exact Lifecycle.advance_eq_error hadvance

theorem chooseStepLength_cellsOnly (given : Option Binary64) (owner : Handle) :
    (chooseStepLength given owner : Action σ Binary64).CellsOnly := by
  cases given with
  | some length => exact Action.CellsOnly.pure length
  | none => exact ReadQuery.getAs_cellsOnly Binary64 _

/-- The listing of vehicles is asked for anew after every step, and the other repositories pass steps
on to what they hold. -/
def Wired (s : Simulation) : Prop := ∀ k, (s.repository k).changing = decide (k = .vehicle) ∧
  (s.repository k).forwarding = decide (k ≠ .vehicle)

omit [Link σ] in
theorem Wired.among {s : Simulation} (h : s.Wired) (lifecycle : Lifecycle) (observers : List Observer)
    (listeners : List Listener) : Wired { s with lifecycle, observers, listeners } := by
  intro k
  cases k <;> exact h _

/-- A start that goes well: objects are made for the simulation and its repositories, the length of a step is
chosen, and a lifecycle that is made after them bootstraps. -/
theorem bootstrapped_of_start {given : Option Binary64} {c c' : Client σ} {s : Simulation}
    (h : start given c = .ok s c') :
    ∃ length c₁ l c₂,
      chooseStepLength given c.memory.nextHandle
        { c with memory := { c.memory with nextHandle := c.memory.nextHandle + 5 } } = .ok length c₁ ∧
      Lifecycle.bootstrap { handle := c₁.memory.nextHandle }
        { c₁ with memory := { c₁.memory with nextHandle := c₁.memory.nextHandle + 1 } } = .ok l c₂ ∧
      c' = { c₂ with memory := c₂.memory.addLog (.ready l.clock length) } ∧
      s = { lifecycle := l
            vehicles := ⟨c.memory.nextHandle + 1, "vehicle", true, false⟩
            edges := ⟨c.memory.nextHandle + 2, "edge", false, true⟩
            lanes := ⟨c.memory.nextHandle + 3, "lane", false, true⟩
            trafficLights := ⟨c.memory.nextHandle + 4, "traffic light", false, true⟩
            handle := c.memory.nextHandle
            stepLength := length } := by
  obtain ⟨handle, c₁, h₁, h⟩ := EStateM.bind_eq_ok_iff.mp h
  obtain ⟨vehicles, c₂, h₂, h⟩ := EStateM.bind_eq_ok_iff.mp h
  obtain ⟨edges, c₃, h₃, h⟩ := EStateM.bind_eq_ok_iff.mp h
  obtain ⟨lanes, c₄, h₄, h⟩ := EStateM.bind_eq_ok_iff.mp h
  obtain ⟨trafficLights, c₅, h₅, h⟩ := EStateM.bind_eq_ok_iff.mp h
  obtain ⟨length, c₆, hlength, h⟩ := EStateM.bind_eq_ok_iff.mp h
  obtain ⟨l, c₇, h₇, h⟩ := EStateM.bind_eq_ok_iff.mp h
  obtain ⟨l', c₈, hboot, h⟩ := EStateM.bind_eq_ok_iff.mp h
  obtain ⟨_, c₉, h₉, h⟩ := EStateM.bind_eq_ok_iff.mp h
  cases h₁
  cases h₂
  cases h₃
  cases h₄
  cases h₅
  cases h₇
  cases h₉
  cases h
  exact ⟨length, c₆, l', c₈, hlength, hboot, rfl, rfl⟩

/-- A simulation starts with an empty vehicle repository, with nobody else being told, and with the
vehicles that are there registered. -/
theorem start_eq_ok {given : Option Binary64} {c c' : Client σ} {s : Simulation}
    (tidy : c.memory.Tidy) (h : start given c = .ok s c') :
    s.observers = [] ∧ s.listeners = [] ∧ s.Wired ∧ s.lifecycle.live.Sound c'.memory ∧
      s.vehicles.objects c'.memory = ∅ := by
  obtain ⟨length, c₁, l, c₂, hlength, hboot, rfl, rfl⟩ := bootstrapped_of_start h
  refine ⟨rfl, rfl, ?_, (Lifecycle.sound_bootstrap hboot).keeps (Memory.Keeps.addLog _ _), ?_⟩
  · intro k
    cases k <;> exact ⟨rfl, rfl⟩
  have hcells := Memory.SameHoldings.of_sameButCells ((chooseStepLength_cellsOnly given _).of_ok hlength)
  have hbooted : c₁.memory.SameHoldings c₂.memory := by
    obtain ⟨time, active, m, hm, -, hmem⟩ := Lifecycle.bootstrap_eq_ok hboot
    have hfetched := Memory.SameHoldings.of_sameButCells hm
    rw [hmem]
    exact (Memory.SameHoldings.lasting.registerAll time active.toList ∅ m).trans hfetched
  have hsame : c.memory.SameHoldings c₂.memory := hbooted.trans hcells
  show c₂.memory.holding (c.memory.nextHandle + 1) = ∅
  rw [hsame.holding_eq]
  exact tidy _ (Nat.le_succ _)

/-- A step that goes well takes a run further. -/
theorem Run.step {events : List Event} {s s' : Simulation} {c c' : Client σ} (run : Run events s c)
    {target : Binary64} {said : StepEvents} (h : s.stepTo target c = .ok (said, s') c') :
    ∃ t, Run (.tick t :: events) s' c' := by
  obtain ⟨l', hadvance, -⟩ := stepTo_eq_ok h
  obtain ⟨a, c₁, hask, -, -, -⟩ := Lifecycle.advance_eq_ok hadvance
  exact ⟨⟨s.lifecycle, a⟩, run.stepped hask h⟩

/-! ### What the repository holds in the course of a run -/

/-- How what the repository holds relates to what is registered: it holds the objects that it took
over, and such an object is the registered one exactly if no tick has moved its id since. -/
structure Consistent (events : List Event) (s : Simulation) (m : Memory) : Prop where
  observers : s.observers = []
  listeners : s.listeners = []
  sound : s.lifecycle.live.Sound m
  held_iff : ∀ id : String,
    (s.vehicles.objects m)[id]?.isSome = (heldSince id events).isSome
  bound : ∀ (id : String) (h : Handle), (s.vehicles.objects m)[id]? = some h → h < m.nextHandle
  current_iff : ∀ (id : String) (h : Handle) (ticks : List Tick),
    (s.vehicles.objects m)[id]? = some h → heldSince id events = some ticks →
      (s.lifecycle.live[id]? = some h ↔ ∀ t ∈ ticks, ¬ t.Moves id)

omit [Link σ] in
theorem Consistent.sameButCells {events : List Event} {s : Simulation} {m m' : Memory}
    (hs : Consistent events s m) (hm : Memory.SameButCells m m') : Consistent events s m' := by
  have hobjects : s.vehicles.objects m' = s.vehicles.objects m := hm.holding_eq s.vehicles.handle
  refine ⟨hs.observers, hs.listeners, hs.sound.keeps (.of_sameButCells hm), ?_, ?_, ?_⟩
  · rw [hobjects]
    exact hs.held_iff
  · rw [hobjects, hm.nextHandle_eq]
    exact hs.bound
  · rw [hobjects]
    exact hs.current_iff

omit [Link σ] in
/-- At a tick an object that was made before stays or becomes registered under an id only if it was
and the tick does not move the id. -/
theorem turn_live_eq_some_iff {observers : List Observer} {listeners : List Listener}
    (heed : Lifecycle.Heed Memory.Keeps observers listeners) {l : Lifecycle} {a : TickAnswer}
    {m : Memory} {id : String} {h : Handle} (hbound : h < m.nextHandle) :
    (Lifecycle.turn observers listeners l a m).1.live[id]? = some h ↔
      l.live[id]? = some h ∧ ¬ (⟨l, a⟩ : Tick).Moves id := by
  constructor
  · intro hlive
    rcases Lifecycle.turn_live_cases (heed.mono fun _ _ => Memory.Keeps.grows) hlive with
      ⟨hold, harr, hdep⟩ | ⟨hle, -⟩
    · exact ⟨hold, fun hmoves => hmoves.elim harr hdep⟩
    · exact absurd hbound (Nat.not_lt_of_le hle)
  · rintro ⟨hlive, hmoves⟩
    have hmem : id ∈ l.live := Registry.mem_iff_exists.mpr ⟨h, hlive⟩
    exact (Lifecycle.turn_live_of_unmoved m hmem (fun harr => hmoves (Or.inl harr))
      fun hdep => hmoves (Or.inr hdep)).trans hlive

omit [Link σ] in
theorem consistent_turn {events : List Event} {s : Simulation} {m : Memory}
    (hs : Consistent events s m) (a : TickAnswer) :
    Consistent (.tick ⟨s.lifecycle, a⟩ :: events)
      { s with lifecycle := (Lifecycle.turn s.observers s.allListeners s.lifecycle a m).1 }
      (Lifecycle.turn s.observers s.allListeners s.lifecycle a m).2 := by
  have heed : ∀ R, Lifecycle.Heed R s.observers s.listeners := by
    rw [hs.observers, hs.listeners]
    exact Lifecycle.Heed.nobody
  have hkeeps := Memory.Keeps.lasting.allListeners (heed _)
  have hsame := Memory.SameHoldings.lasting.turn (Memory.SameHoldings.lasting.allListeners (heed _))
    Memory.SameHoldings.retire s.lifecycle a m
  have hobjects : s.vehicles.objects (Lifecycle.turn s.observers s.allListeners s.lifecycle a m).2 =
      s.vehicles.objects m := hsame.holding_eq s.vehicles.handle
  refine ⟨hs.observers, hs.listeners, Lifecycle.sound_turn hkeeps hs.sound a, ?_, ?_, ?_⟩
  · intro id
    rw [hobjects, hs.held_iff id, heldSince, Option.isSome_map]
  · intro id h hheld
    rw [hobjects] at hheld
    exact Nat.lt_of_lt_of_le (hs.bound id h hheld)
      (Lifecycle.keepsBut_turn hkeeps s.lifecycle a m).nextHandle_le
  · intro id h ticks hheld hsince
    rw [hobjects] at hheld
    obtain ⟨older, holder, rfl⟩ := Option.map_eq_some_iff.mp hsince
    rw [turn_live_eq_some_iff hkeeps (hs.bound id h hheld), hs.current_iff id h older hheld holder,
      List.forall_mem_cons, and_comm]

omit [Link σ] in
/-- Bringing the repository in line. -/
theorem consistent_listed {events : List Event} {s : Simulation} {m : Memory} {ids : List String}
    {found : Registry} (hs : Consistent events s m) (hall : ∀ x ∈ ids, x ∈ found)
    (hfound : ∀ x : String, found[x]? =
      if x ∈ ids then ((s.vehicles.objects m)[x]?).or s.lifecycle.live[x]? else none) :
    Consistent (.listed s.lifecycle ids :: events) s (m.setHolding s.vehicles.handle found) := by
  have hobjects : s.vehicles.objects (m.setHolding s.vehicles.handle found) = found :=
    Memory.holding_setHolding s.vehicles.handle found m
  refine ⟨hs.observers, hs.listeners, hs.sound.keeps ⟨Nat.le_refl _, fun _ _ => rfl⟩, ?_, ?_, ?_⟩
  · intro id
    rw [hobjects, heldSince]
    by_cases hid : id ∈ ids
    · rw [if_pos hid]
      exact Std.ExtTreeMap.mem_iff_isSome_getElem?.mp (hall id hid)
    · rw [hfound id, if_neg hid, if_neg hid]
      rfl
  · intro id h hheld
    rw [hobjects, hfound id] at hheld
    split at hheld
    · rcases Option.or_eq_some_iff.mp hheld with hold | ⟨-, hlive⟩
      · exact hs.bound id h hold
      · exact hs.sound.bound id h hlive
    · cases hheld
  · intro id h ticks hheld hsince
    rw [hobjects, hfound id] at hheld
    split at hheld
    · next hid =>
      rw [heldSince, if_pos hid] at hsince
      rcases Option.or_eq_some_iff.mp hheld with hold | ⟨hnone, hlive⟩
      · have hsome : (heldSince id events).isSome = true := by
          rw [← hs.held_iff id, hold]
          rfl
        obtain ⟨older, holder⟩ := Option.isSome_iff_exists.mp hsome
        rw [holder] at hsince
        cases hsince
        exact hs.current_iff id h older hold holder
      · -- the object is taken over now
        have hsnone : heldSince id events = none := by
          rw [← Option.isNone_iff_eq_none, ← Option.not_isSome, ← hs.held_iff id, hnone]
          rfl
        rw [hsnone] at hsince
        cases hsince
        exact ⟨fun _ t ht => absurd ht List.not_mem_nil, fun _ => hlive⟩
    · cases hheld

theorem Run.consistent {events : List Event} {s : Simulation} {c : Client σ} (run : Run events s c) :
    Consistent events s c.memory := by
  induction run with
  | started tidy h =>
    obtain ⟨hobservers, hlisteners, -, hsound, hempty⟩ := start_eq_ok tidy h
    refine ⟨hobservers, hlisteners, hsound, ?_, ?_, ?_⟩
    · intro id
      rw [hempty, Std.ExtTreeMap.getElem?_empty]
      rfl
    · intro id h hheld
      rw [hempty] at hheld
      exact absurd hheld Registry.getElem?_empty_ne_some
    · intro id h ticks hheld
      rw [hempty] at hheld
      exact absurd hheld Registry.getElem?_empty_ne_some
  | stepped run hask h ih =>
    obtain ⟨l', hadvance, rfl⟩ := stepTo_eq_ok h
    obtain ⟨-, rfl, hmem⟩ := Lifecycle.advance_eq_ok_of_ask hask hadvance
    rw [hmem]
    exact consistent_turn (ih.sameButCells ((Lifecycle.ask_cellsOnly _ _).of_ok hask)) _
  | stepFailed run h ih => exact ih.sameButCells (stepTo_eq_error h)
  | listed run h ih =>
    obtain ⟨m, found, hm, hmem, hall, hfound⟩ := Repository.ids_eq_ok h
    rw [hmem]
    refine consistent_listed (ih.sameButCells hm) hall fun x => ?_
    rw [hfound x, Repository.objects, Repository.objects, hm.holding_eq]
  | listFailed run h ih => exact ih.sameButCells (Repository.ids_eq_error h)

/-! ### Which objects the repository gives -/

/-- A vehicle is the one that is registered under its id, and it has not left. -/
def Current (s : Simulation) (m : Memory) (v : Vehicle) : Prop :=
  s.vehicle? v.id = some v ∧ (m.vehicle v.handle).retired = false

/-- Whether a vehicle that the repository gives is the registered one is settled by the ticks since
the repository took it over. -/
def SettledBy (events : List Event) (s : Simulation) (m : Memory) (v : Vehicle) : Prop :=
  ∃ ticks, heldSince v.id events = some ticks ∧ (s.Current m v ↔ ∀ t ∈ ticks, ¬ t.Moves v.id)

omit [Link σ] in
theorem Consistent.settledBy {events : List Event} {s : Simulation} {m : Memory}
    (hs : Consistent events s m) {v : Vehicle} (hheld : (s.vehicles.objects m)[v.id]? = some v.handle) :
    SettledBy events s m v := by
  have hsome : (heldSince v.id events).isSome = true := by
    rw [← hs.held_iff v.id, hheld]
    rfl
  obtain ⟨ticks, hticks⟩ := Option.isSome_iff_exists.mp hsome
  refine ⟨ticks, hticks, ?_⟩
  rw [← hs.current_iff v.id v.handle ticks hheld hticks]
  constructor
  · rintro ⟨hvehicle, -⟩
    obtain ⟨h, hlive, hv⟩ := Option.map_eq_some_iff.mp hvehicle
    rw [hlive, ← hv]
  · intro hlive
    refine ⟨?_, hs.sound.present v.id v.handle hlive⟩
    show s.lifecycle.live[v.id]?.map (⟨·, v.id⟩) = some v
    rw [hlive]
    rfl

/-- Whatever the vehicle repository gives in the course of a run is the registered vehicle and has
not left, exactly if its id neither arrived nor departed at any tick since the repository took its
object over. -/
theorem object_current_iff {events : List Event} {s : Simulation} {c c' : Client σ}
    (run : Run events s c) :
    (∀ id v, s.vehicles.find? s.findVehicle id c = .ok (some v) c' → v.id = id ∧
      ∃ ids, Run (.listed s.lifecycle ids :: events) s c' ∧
        SettledBy (.listed s.lifecycle ids :: events) s c'.memory v) ∧
    (∀ entries, s.vehicles.all s.findVehicle c = .ok entries c' →
      ∃ ids, Run (.listed s.lifecycle ids :: events) s c' ∧
        ∀ v ∈ entries, SettledBy (.listed s.lifecycle ids :: events) s c'.memory v) := by
  constructor
  · intro id v h
    obtain ⟨⟨ids, hids⟩, hresult⟩ := Repository.find?_eq_ok h
    obtain ⟨handle, hheld, rfl⟩ := Option.map_eq_some_iff.mp hresult.symm
    have run' := run.listed hids
    exact ⟨rfl, ids, run', run'.consistent.settledBy hheld⟩
  · intro entries h
    obtain ⟨⟨ids, hids⟩, rfl⟩ := Repository.all_eq_ok h
    have run' := run.listed hids
    refine ⟨ids, run', fun v hv => run'.consistent.settledBy ?_⟩
    obtain ⟨⟨id, handle⟩, hmem, rfl⟩ := List.mem_map.mp hv
    exact Std.ExtTreeMap.mem_toList_iff_getElem?_eq_some.mp hmem

theorem truthful_of_beq {l : Lifecycle} {ids : List String} (h : (ids == l.active.toList) = true) :
    (Event.listed l ids).Truthful := by
  intro id
  rw [beq_iff_eq.mp h]
  exact Std.ExtTreeSet.mem_toList

/-- A vehicle that has been there since the repository took it over is the registered one. -/
theorem repository_gives_registered :
    ∃ events s, ∃ c c' : Client Stream, ∃ v, Run events s c ∧
      s.vehicles.find? s.findVehicle "v0" c = .ok (some v) c' ∧ s.Current c'.memory v := by
  have hplay : (start (some .zero)).succeedsWith (fun s c =>
      (s.vehicles.find? s.findVehicle "v0").succeedsWith (fun found _ => found.isSome) c)
      ({ link := .awaiting [Lifecycle.bootstrapReply { handle := 0 } { active := ["v0"] },
        [(Repository.idList (k := .vehicle) ⟨0, "", true, false⟩).container (.textList ["v0"])]] } :
        Client Stream) = true := by
    decide +kernel
  obtain ⟨s, c, hstart, hplay⟩ := Action.of_succeedsWith hplay
  obtain ⟨found, c', hfind, hsome⟩ := Action.of_succeedsWith hplay
  obtain ⟨v, rfl⟩ := Option.isSome_iff_exists.mp hsome
  have tidy : ({} : Memory).Tidy := fun _ _ => rfl
  have run := Run.started tidy hstart
  refine ⟨_, s, c, c', v, run, hfind, ?_⟩
  obtain ⟨-, ids, -, ticks, hsince, hcurrent⟩ := (object_current_iff run).1 "v0" v hfind
  rw [hcurrent]
  intro t ht
  rw [heldSince] at hsince
  split at hsince
  · cases hsince
    cases ht
  · cases hsince

/-- An id that left and departed again between two listings, each of which tells the truth: the
repository gives the object that has left, not the registered one. -/
theorem repository_gives_departed :
    ∃ events s, ∃ c c' : Client Stream, ∃ ids v, Run events s c ∧ (∀ e ∈ events, e.Truthful) ∧
      s.vehicles.ids s.findVehicle c = .ok ids c' ∧ (Event.listed s.lifecycle ids).Truthful ∧
      s.vehicles.find? s.findVehicle "v0" c = .ok (some v) c' ∧ s.vehicle? "v0" ≠ some v ∧
      (c'.memory.vehicle v.handle).retired = true := by
  have hplay : (start (some .zero)).succeedsWith (fun s c =>
      (s.vehicles.ids s.findVehicle).succeedsWith (fun ids c =>
        ids == s.lifecycle.active.toList && (s.stepTo .zero).succeedsWith (fun r =>
          (r.2.stepTo .zero).succeedsWith fun r c =>
            (r.2.vehicles.ids r.2.findVehicle).succeedsWith
              (fun ids _ => ids == r.2.lifecycle.active.toList) c &&
            (r.2.vehicles.find? r.2.findVehicle "v0").succeedsWith (fun found c =>
              found.any fun v => r.2.vehicle? "v0" != some v && (c.memory.vehicle v.handle).retired) c)
          c) c)
      ({ link := .awaiting [Lifecycle.bootstrapReply { handle := 0 } { active := ["v0"] },
        [(Repository.idList (k := .vehicle) ⟨0, "", true, false⟩).container (.textList ["v0"])],
        Lifecycle.tickReply { handle := 0 } {},
        Lifecycle.tickReply { handle := 0 } { active := ["v0"] },
        [(Repository.idList (k := .vehicle) ⟨0, "", true, false⟩).container (.textList ["v0"])]] } :
        Client Stream) = true := by
    decide +kernel
  obtain ⟨s₁, c₁, hstart, hplay⟩ := Action.of_succeedsWith hplay
  obtain ⟨ids₂, c₂, hids₂, hplay⟩ := Action.of_succeedsWith hplay
  obtain ⟨htruth₂, hplay⟩ := Bool.and_eq_true_iff.mp hplay
  obtain ⟨⟨said₃, s₃⟩, c₃, hstep₃, hplay⟩ := Action.of_succeedsWith hplay
  obtain ⟨⟨said₄, s₄⟩, c₄, hstep₄, hplay⟩ := Action.of_succeedsWith hplay
  obtain ⟨hlist, hfind⟩ := Bool.and_eq_true_iff.mp hplay
  obtain ⟨ids₅, c₅, hids₅, htruth₅⟩ := Action.of_succeedsWith hlist
  obtain ⟨found, c₆, hfind, hany⟩ := Action.of_succeedsWith hfind
  obtain ⟨v, rfl, htest⟩ := (Option.any_eq_true _ _).mp hany
  obtain ⟨hother, hretired⟩ := Bool.and_eq_true_iff.mp htest
  have tidy : ({} : Memory).Tidy := fun _ _ => rfl
  obtain ⟨t₃, run₃⟩ := ((Run.started tidy hstart).listed hids₂).step hstep₃
  obtain ⟨t₄, run₄⟩ := run₃.step hstep₄
  obtain ⟨⟨listed, hlisted⟩, -⟩ := Repository.find?_eq_ok hfind
  rw [hids₅] at hlisted
  cases hlisted
  refine ⟨_, s₄, c₄, c₅, ids₅, v, run₄, ?_, hids₅, truthful_of_beq htruth₅, hfind,
    bne_iff_ne.mp hother, hretired⟩
  simp only [List.forall_mem_cons, List.not_mem_nil, false_imp_iff, implies_true, and_true]
  exact ⟨trivial, trivial, truthful_of_beq htruth₂⟩

end Simulation

end TrafficControl
