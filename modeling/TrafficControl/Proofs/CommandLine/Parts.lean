import TrafficControl.Proofs.CommandLine.Talking
import TrafficControl.Proofs.CommandLine.Visits
import TrafficControl.Proofs.Query.Fetching
import TrafficControl.Proofs.Traffic.Objects

/-!
# What the parts of a session ask

Each part of a session asks at most one question, and fails only if that question is refused. What it
asks depends on what is remembered: no read has a parameter, the version is not known before it is asked
for, and the number of expected vehicles is out of date after every step. This is what is kept from part to
part.

* `Simulation.talks_start`, `Simulation.asks_step`: where a session starts, and a step.
* `Simulation.asks_version`, `Simulation.asks_minExpected`, `Simulation.asks_close`: the other questions.
-/

namespace TrafficControl

variable {σ α : Type}

/-! ### What stays while vehicles come and go -/

/-- The parameters of reads and the version of the simulator are what they were before. -/
structure Memory.SameTerms (m m' : Memory) : Prop where
  parameters : m'.cells.parameters = m.cells.parameters
  versions : m'.cells.versions = m.cells.versions

namespace Memory.SameTerms

theorem refl (m : Memory) : SameTerms m m := ⟨rfl, rfl⟩

theorem trans {m₁ m₂ m₃ : Memory} (h : SameTerms m₁ m₂) (h' : SameTerms m₂ m₃) : SameTerms m₁ m₃ :=
  ⟨h'.parameters.trans h.parameters, h'.versions.trans h.versions⟩

theorem forgetAll (cells : List Cell) (m : Memory) : SameTerms m (m.mapCells (·.forgetAll cells)) := by
  unfold Memory.mapCells
  dsimp only
  rw [Cells.forgetAll_eq]
  exact ⟨rfl, rfl⟩

theorem lasting : Memory.Lasting SameTerms where
  refl := refl
  trans := trans
  addLog _ _ := ⟨rfl, rfl⟩
  addVehicle _ _ _ := ⟨rfl, rfl⟩
  forgetAll := forgetAll

theorem retire (v : Vehicle) (m : Memory) : SameTerms m (v.retire m) := by
  have hrecord : SameTerms m (m.setVehicle v.handle { m.vehicle v.handle with retired := true }) :=
    ⟨rfl, rfl⟩
  exact hrecord.trans (forgetAll _ _)

end Memory.SameTerms

/-- An answer to anything leaves the time that a step asks for as it was set. -/
theorem Effect.targets_apply (e : Effect) (cells : Cells) : (e.apply cells).targets = cells.targets := by
  cases e with
  | outdated outdates =>
    show (cells.forgetAll outdates).targets = _
    rw [Cells.forgetAll_eq]
  | kept | stepped | identified | nothing => rfl

/-- What every effect keeps, every query keeps. -/
theorem Query.keeps_of_effect {J : Memory → Prop} (h : ∀ (e : Effect) m, J m → J (m.mapCells e.apply))
    (q : Query) : q.Keeps J :=
  fun _ e _ m hm => h e m hm

/-- A read leaves the version of the simulator alone. -/
theorem Query.versions_of_read {q : ReadQuery} {container : Container} {e : Effect}
    (h : (Query.read q).effectOf container = .ok e) (cells : Cells) :
    (e.apply cells).versions = cells.versions := by
  obtain ⟨v, rfl, -⟩ := Query.effectOf_read_eq_ok h
  rfl

namespace Session

/-- No read has a parameter. -/
def Plain (m : Memory) : Prop := m.cells.parameters = ∅

theorem Plain.keeps (q : Query) : q.Keeps Plain :=
  q.keeps_of_effect fun e m hm => (e.parameters_apply m.cells).trans hm

/-- Nothing is known yet that is asked for only once. -/
structure Ignorant (next : Handle) (m : Memory) : Prop where
  plain : Plain m
  versions : m.cells.versions = ∅
  nextHandle : m.nextHandle = next

theorem Ignorant.keeps_read (next : Handle) (r : ReadQuery) : (Query.read r).Keeps (Ignorant next) := by
  intro container e he m hm
  refine ⟨Plain.keeps _ container e he m hm.plain, ?_, hm.nextHandle⟩
  exact (Query.versions_of_read he m.cells).trans hm.versions

variable [Link σ]

/-! ### Reads on their own -/

/-- What a read gives once its batch has succeeded, as what it stands for. -/
def rememberedAs (α : Type) [Readable α] (r : ReadQuery) : Action σ α := do
  Action.ofExcept (Readable.ofValue (← r.remembered))

theorem getAs_of_empty [Readable α] {r : ReadQuery} {c : Client σ}
    (h : r.cached? c.memory.cells = none) :
    r.getAs α c = (do Action.dispatch [.read r]; rememberedAs α r : Action σ α) c := by
  rw [rememberedAs, ← bind_assoc]
  rcases hget : r.get c with ⟨v, c₁⟩ | ⟨e, c₁⟩
  · rw [ReadQuery.getAs, EStateM.bind_of_ok hget]
    rw [ReadQuery.get_of_empty h] at hget
    rw [EStateM.bind_of_ok hget]
  · rw [ReadQuery.getAs, EStateM.bind_of_error hget]
    rw [ReadQuery.get_of_empty h] at hget
    rw [EStateM.bind_of_error hget]

omit [Link σ] in
/-- A read whose batch has succeeded gives what its container tells. -/
theorem rememberedAs_of_takes [Readable α] {r : ReadQuery} (haccepts : Readable.Accepts α r.type)
    {containers : List Container} {effects : List Effect} (h : Takes [.read r] containers effects) :
    ∃ container a, containers = [container] ∧ r.told? α container = some a ∧
      ∀ (c : Client σ) (cells : Cells), c.memory.cells = Effect.applyAll effects cells →
        rememberedAs α r c = .ok a c := by
  cases h with | cons heffect hrest => ?_
  cases hrest
  obtain ⟨v, a, rfl, ha, htold⟩ := ReadQuery.exists_told haccepts heffect
  refine ⟨_, a, rfl, htold, fun c cells hcells => ?_⟩
  have hcached : r.cached? c.memory.cells = some v :=
    Lifecycle.cached_of_applyAll [] hcells (List.forall_mem_nil _)
  have hremembered : (r.remembered : Action σ Value) c = .ok v c := by
    unfold ReadQuery.remembered
    rw [hcached]
  rw [rememberedAs, EStateM.bind_of_ok hremembered, ha]
  rfl

end Session

namespace Simulation

open Session

variable [Link σ]

/-! ### The start -/

theorem silent_fresh (next : Handle) : Silent id
    (fun c : Client σ => c.memory = { nextHandle := next }) Action.fresh
    fun h c => h = next ∧ c.memory = { nextHandle := next + 1 } := by
  refine silent_modifyMemory fun c hc => ?_
  rw [hc]
  exact ⟨rfl, rfl⟩

theorem silent_create (next : Handle) (k : Kind) (name : String) (changing forwarding : Bool) :
    Silent id (fun c : Client σ => c.memory = { nextHandle := next })
      (Repository.create k name changing forwarding)
      fun _ c => c.memory = { nextHandle := next + 1 } := by
  refine Talks.silent_bind (silent_fresh next) fun h => ?_
  exact Talks.pure fun c hc => ⟨rfl, hc.2⟩

theorem silent_createLifecycle : Silent (σ := σ) id (fun c => Ignorant 5 c.memory) Lifecycle.create
    fun l c => l = Question.lifecycle ∧ Ignorant 6 c.memory := by
  have hfresh : Silent (σ := σ) id (fun c => Ignorant 5 c.memory) Action.fresh
      fun h c => h = 5 ∧ Ignorant 6 c.memory := by
    apply silent_modifyMemory
    intro c hc
    exact ⟨hc.nextHandle, hc.plain, hc.versions, congrArg (· + 1) hc.nextHandle⟩
  refine Talks.silent_bind hfresh fun h => Talks.pure ?_
  rintro c ⟨rfl, hc⟩
  exact ⟨rfl, rfl, hc⟩

theorem asks_stepLength (next : Handle) : Asks id
    (fun c : Client σ => c.memory = { nextHandle := next })
    ((wholeQuery Question.whole 2 Code.stepLength .double).getAs Binary64) .stepLength
    (fun b a c => a = b ∧ Ignorant next c.memory) fun _ => True := by
  have hask : Asks (σ := σ) id (fun c => Ignorant next c.memory)
      (do Action.dispatch (Question.queries .stepLength)
          rememberedAs Binary64 (wholeQuery Question.whole 2 Code.stepLength .double))
      .stepLength (fun b a c => a = b ∧ Ignorant next c.memory) fun _ => True := by
    refine asks_dispatch ?_ ?_ ?_
    · intro m hm
      exact Question.ready _ hm.plain nofun
    · intro p hp
      rw [Question.queries, List.mem_singleton] at hp
      rw [hp]
      exact Ignorant.keeps_read next _
    · intro containers effects htakes
      obtain ⟨container, a, rfl, htold, hfound⟩ :=
        rememberedAs_of_takes (σ := σ) Readable.accepts_table.1 htakes
      exact ⟨a, htold, hfound⟩
  have hstart : ∀ c : Client σ, c.memory = { nextHandle := next } → Ignorant next c.memory := by
    intro c hc
    rw [hc]
    exact ⟨rfl, rfl, rfl⟩
  refine (hask.mono hstart (fun _ _ _ => id) fun _ _ _ => id).congr ?_
  intro c hc
  apply getAs_of_empty
  show c.memory.cells.cached[_]? = none
  rw [hc]
  exact Std.ExtTreeMap.getElem?_empty

/-- The length of a step is asked for unless it is given. -/
theorem talks_chooseStepLength (given : Option Binary64) (steps : Nat) (json : Bool) (next : Handle) :
    Talks id (fun c : Client σ => c.memory = { nextHandle := next })
      (chooseStepLength given Question.whole)
      (fun xs length c => xs = opening given length ∧ (∀ g, given = some g → length = g) ∧
        Ignorant next c.memory)
      fun xs q _ => BreaksOff given steps json xs q [] := by
  cases given with
  | some length =>
    refine Talks.pure fun c hc => ⟨rfl, ?_, ?_⟩
    · intro g hg
      exact Option.some.inj hg
    · rw [hc]
      exact ⟨rfl, rfl, rfl⟩
  | none =>
    refine (asks_stepLength next).mono (fun _ => id) ?_ ?_
    · rintro xs length c ⟨b, rfl, rfl, hc⟩
      exact ⟨rfl, nofun, hc⟩
    · rintro xs q c ⟨rfl, rfl, -⟩
      exact breaksOff_stepLength steps json

/-- A bootstrap takes over the vehicles that the simulator tells of. -/
theorem asks_bootstrap (next : Handle) : Asks id
    (fun c : Client σ => Ignorant next c.memory) Question.lifecycle.bootstrap .bootstrap
    (fun b l c => l.SameFleet (Question.lifecycle.takeOver b.1 b.2 {}).1 ∧
      l.handle = Question.lifecycle.handle ∧ Plain c.memory ∧ c.memory.cells.versions = ∅)
    fun _ => True := by
  have hask : Asks (σ := σ) id (fun c => Ignorant next c.memory)
      (do Action.dispatch (Question.queries .bootstrap); Question.lifecycle.survey)
      .bootstrap (fun b a c => a = b ∧ Ignorant next c.memory) fun _ => True := by
    refine asks_dispatch ?_ ?_ fun containers effects htakes => Lifecycle.survey_of_takes htakes
    · intro m hm
      exact Question.ready _ hm.plain nofun
    · simp only [Question.queries, Lifecycle.bootstrapBatch, List.forall_mem_cons]
      exact ⟨Ignorant.keeps_read next _, Ignorant.keeps_read next _, List.forall_mem_nil _⟩
  rw [Lifecycle.bootstrap_eq, ← bind_assoc]
  refine hask.ask_then fun b a => silent_modifyMemory fun c hc => ?_
  obtain ⟨rfl, hc⟩ := hc
  have hterms : c.memory.SameTerms (Question.lifecycle.takeOver a.1 a.2 c.memory).2 :=
    (Memory.SameTerms.lasting.registerAll a.1 a.2.toList _ c.memory).trans
      (Memory.SameTerms.lasting.addLog _ _)
  refine ⟨.takeOver _ _ _ _ _, rfl, ?_, ?_⟩
  · exact hterms.parameters.trans hc.plain
  · exact hterms.versions.trans hc.versions

/-- A simulation of a session: it has its usual handles, nobody else listens to it, and whoever is told
about vehicles leaves the parameters alone. -/
structure Ours (s : Simulation) : Prop where
  handle_eq : s.handle = Question.whole
  lifecycle_eq : s.lifecycle.handle = Question.lifecycle.handle
  listeners_eq : s.listeners = []
  observers_heed : ∀ o ∈ s.observers, ∀ notice (m : Memory), m.SameTerms (o.tell notice m)

/-- The start of a session. -/
theorem talks_start (given : Option Binary64) (steps : Nat) (json : Bool) :
    Talks id (fun c : Client σ => c.memory = {}) (start given)
      (fun xs s c => (∃ time active, xs = opening given s.stepLength ++ [⟨.bootstrap, (time, active)⟩] ∧
          s.lifecycle.SameFleet (Question.lifecycle.takeOver time active {}).1) ∧
        (∀ g, given = some g → s.stepLength = g) ∧ s.Ours ∧
        Plain c.memory ∧ c.memory.cells.versions = ∅)
      fun xs q _ => BreaksOff given steps json xs q [] := by
  apply Talks.silent_bind (silent_fresh 0)
  intro handle
  apply Talks.given
  rintro rfl
  refine Talks.silent_bind (silent_create 1 _ _ _ _) fun vehicles => ?_
  refine Talks.silent_bind (silent_create 2 _ _ _ _) fun edges => ?_
  refine Talks.silent_bind (silent_create 3 _ _ _ _) fun lanes => ?_
  refine Talks.silent_bind (silent_create 4 _ _ _ _) fun trafficLights => ?_
  apply Talks.bind (talks_chooseStepLength given steps json 5)
  intro xs length
  apply Talks.given
  rintro rfl
  apply Talks.given
  intro hlength
  apply Talks.silent_bind silent_createLifecycle
  intro l
  apply Talks.given
  rintro rfl
  refine Talks.ask_bind (asks_bootstrap 6) ?_ fun b l => ?_
  · intro _ _
    rw [List.append_nil]
    exact breaksOff_bootstrap hlength steps json
  refine Talks.given fun hfleet => Talks.given fun hhandle => ?_
  apply Talks.silent_bind (silent_log _ (P := fun m => Plain m ∧ m.cells.versions = ∅) fun _ h => h)
  intro _
  apply Talks.pure
  rintro c ⟨hplain, hversions⟩
  exact ⟨⟨b.1, b.2, rfl, hfleet⟩, hlength, ⟨rfl, hhandle, rfl, nofun⟩, hplain, hversions⟩

/-! ### The version -/

variable {s : Simulation}

/-- What is remembered of the version once its batch has succeeded. -/
def knownVersion : Action σ (Int32 × String) := do
  match (← Action.memory).cells.versions[(⟨Question.whole, 0⟩ : Cell)]? with
  | some v => pure v
  | none => throw (.missingResponse Code.getVersion)

omit [Link σ] in
theorem knownVersion_of_known {c : Client σ} {v : Int32 × String}
    (h : c.memory.cells.versions[(⟨Question.whole, 0⟩ : Cell)]? = some v) :
    (knownVersion : Action σ (Int32 × String)) c = .ok v c := by
  rw [knownVersion, EStateM.bind_of_ok (x := Action.memory) rfl, h]
  rfl

/-- The version is asked for as long as it is not known. -/
theorem asks_version (hs : s.Ours) : Asks id
    (fun c : Client σ => Plain c.memory ∧ c.memory.cells.versions = ∅) s.version .version
    (fun b a c => a = b ∧ Plain c.memory) fun _ => True := by
  have hask : Asks (σ := σ) id (fun c => Plain c.memory)
      (do Action.dispatch (Question.queries .version); knownVersion) .version
      (fun b a c => a = b ∧ Plain c.memory) fun _ => True := by
    refine asks_dispatch (fun m hm => Question.ready _ hm nofun) (fun p _ => Plain.keeps p) ?_
    intro containers effects htakes
    cases htakes with | @cons _ container _ _ _ _ heffect hrest => ?_
    cases hrest
    obtain ⟨v, hv, rfl⟩ := Except.map_eq_ok_iff.mp heffect
    refine ⟨v, ?_, fun c cells hcells => ?_⟩
    · show (versionOf container).toOption = some v
      rw [hv]
      rfl
    · apply knownVersion_of_known
      rw [hcells]
      exact Std.ExtTreeMap.getElem?_insert_self
  refine (hask.mono (fun c hc => hc.1) (fun _ _ _ => id) fun _ _ _ => id).congr ?_
  rintro c ⟨-, hversions⟩
  have hcell : s.versionCell = ⟨Question.whole, 0⟩ := congrArg (Cell.mk · 0) hs.handle_eq
  have hunknown : c.memory.cells.versions[(⟨Question.whole, 0⟩ : Cell)]? = none := by
    rw [hversions]
    exact Std.ExtTreeMap.getElem?_empty
  rw [version, EStateM.bind_of_ok (x := Action.memory) rfl, hcell, hunknown]
  rfl

/-! ### The other questions -/

/-- The number of expected vehicles is asked for if it is out of date. -/
theorem asks_minExpected (hs : s.Ours) : Asks id
    (fun c : Client σ => s.minExpectedQuery.cached? c.memory.cells = none ∧ Plain c.memory) s.minExpected
    .expected (fun b a c => a = b ∧ Plain c.memory) fun _ => True := by
  have hquery : s.minExpectedQuery = wholeQuery Question.whole 0 Code.minExpected .int :=
    congrArg (wholeQuery · 0 Code.minExpected .int) hs.handle_eq
  have hask : Asks (σ := σ) id (fun c => Plain c.memory)
      (do Action.dispatch (Question.queries .expected)
          rememberedAs Int32 (wholeQuery Question.whole 0 Code.minExpected .int))
      .expected (fun b a c => a = b ∧ Plain c.memory) fun _ => True := by
    refine asks_dispatch (fun m hm => Question.ready _ hm nofun) (fun p _ => Plain.keeps p) ?_
    intro containers effects htakes
    obtain ⟨container, a, rfl, htold, hfound⟩ :=
      rememberedAs_of_takes (σ := σ) Readable.accepts_table.2.1 htakes
    exact ⟨a, htold, hfound⟩
  refine (hask.mono (fun c hc => hc.2) (fun _ _ _ => id) fun _ _ _ => id).congr ?_
  rintro c ⟨hnone, -⟩
  rw [minExpected, hquery]
  rw [hquery] at hnone
  exact getAs_of_empty hnone

/-- The order to shut down. -/
theorem asks_close : Asks id (fun c : Client σ => Plain c.memory) s.close .close
    (fun _ _ _ => True) fun _ => True := by
  have hask : Asks (σ := σ) id (fun c => Plain c.memory)
      (do Action.dispatch (Question.queries .close); pure ()) .close
      (fun b a c => a = b ∧ Plain c.memory) fun _ => True :=
    asks_dispatch (fun m hm => Question.ready _ hm nofun) (fun p _ => Plain.keeps p)
      fun _ _ _ => ⟨(), rfl, fun _ _ _ => rfl⟩
  have hsplit : (s.close : Action σ Unit) = (do
      (do Action.dispatch (Question.queries .close); pure ())
      Action.log (.closed s.currentTime)) := by
    rw [bind_assoc]
    rfl
  rw [hsplit]
  refine hask.ask_then fun _ _ => ?_
  exact silent_modifyMemory (f := fun m => ((), m.addLog _)) fun _ _ => trivial

/-! ### Steps -/

/-- No read has a parameter, and the time that a tick goes to is set. -/
structure Aimed (target : Binary64) (m : Memory) : Prop where
  plain : Plain m
  target_eq : m.cells.target Question.lifecycle.stepCell = target

omit [Link σ] in
theorem Aimed.keeps (target : Binary64) (q : Query) : q.Keeps (Aimed target) := by
  refine q.keeps_of_effect fun e m hm => ⟨(e.parameters_apply m.cells).trans hm.plain, ?_⟩
  show (e.apply m.cells).targets.getD _ _ = _
  rw [e.targets_apply]
  exact hm.target_eq

/-- The batch of a tick asks for the events up to a time. -/
theorem asks_ask {l : Lifecycle} (hl : l.handle = Question.lifecycle.handle) (target : Binary64) :
    Asks id (fun c : Client σ => Plain c.memory) (l.ask target) (.tick target)
      (fun b a c => a = b ∧ Plain c.memory) fun _ => True := by
  obtain ⟨handle, active, clock, live⟩ := l
  cases hl
  have hset : Silent (σ := σ) id (fun c => Plain c.memory)
      (Action.updateCells (·.setTarget Question.lifecycle.stepCell target))
      fun _ c => Aimed target c.memory := by
    refine silent_modifyMemory (f := fun m => ((), m.mapCells _)) fun c hc => ⟨hc, ?_⟩
    exact Std.ExtTreeMap.getD_insert_self
  have hask : Asks (σ := σ) id (fun c => Aimed target c.memory)
      (do Action.dispatch (Question.queries (.tick target)); Question.lifecycle.collect) (.tick target)
      (fun b a c => a = b ∧ Aimed target c.memory) fun _ => True := by
    refine asks_dispatch ?_ (fun p _ => Aimed.keeps target p) ?_
    · rintro m ⟨hplain, htarget⟩
      refine Question.ready _ hplain ?_
      rintro _ ⟨⟩
      exact htarget
    · exact fun containers effects htakes => Lifecycle.collect_of_takes htakes
  rw [Lifecycle.ask_eq]
  refine Talks.silent_bind hset fun _ => hask.mono (fun _ => id) ?_ fun _ _ _ => id
  rintro xs a c ⟨b, hxs, hab, hc⟩
  exact ⟨b, hxs, hab, hc.plain⟩

/-- After a tick the number of expected vehicles is out of date, as the last listener is its read. -/
theorem cached_minExpected_turn (hs : s.Ours) (a : TickAnswer) (m : Memory) :
    s.minExpectedQuery.cached?
      (s.lifecycle.turn s.observers s.allListeners a m).2.cells = none := by
  rw [Lifecycle.turn_snd, allListeners, hs.listeners_eq]
  exact (Cells.cached_forget _ _ _).trans (if_pos rfl)

/-- A tick reports what its answers tell. After it the number of expected vehicles is out of date. -/
theorem asks_advance (hs : s.Ours) (target : Binary64) : Asks id (fun c : Client σ => Plain c.memory)
    (s.lifecycle.advance target s.observers s.allListeners) (.tick target)
    (fun a r c => (r.1 = s.lifecycle.events a ∧ r.2.handle = s.lifecycle.handle ∧
        r.2.SameFleet (s.lifecycle.after a)) ∧
      s.minExpectedQuery.cached? c.memory.cells = none ∧ Plain c.memory)
    fun _ => True := by
  have hheed : Lifecycle.Heed Memory.SameTerms s.observers s.allListeners := by
    apply Memory.SameTerms.lasting.allListeners
    refine ⟨hs.observers_heed, ?_⟩
    rw [hs.listeners_eq]
    exact List.forall_mem_nil _
  have hturn : ∀ a, Silent (σ := σ) id (fun c => Plain c.memory)
      (Action.modifyMemory (s.lifecycle.turn s.observers s.allListeners a))
      fun l c => (l.handle = s.lifecycle.handle ∧ l.SameFleet (s.lifecycle.after a)) ∧
        s.minExpectedQuery.cached? c.memory.cells = none ∧ Plain c.memory := by
    intro a
    apply silent_modifyMemory
    intro c hc
    have hterms := Memory.SameTerms.lasting.turn hheed Memory.SameTerms.retire s.lifecycle a c.memory
    refine ⟨⟨rfl, .turn (.refl _) _ _ _ _ _ _ _⟩, ?_, ?_⟩
    · exact cached_minExpected_turn hs a c.memory
    · exact hterms.parameters.trans hc
  unfold Lifecycle.advance
  apply Talks.ask_then (asks_ask hs.lifecycle_eq target)
  intro b a
  apply Talks.given
  rintro rfl
  apply Talks.silent_bind (hturn a)
  intro l
  apply Talks.pure
  rintro c ⟨⟨hhandle, hfleet⟩, hc⟩
  exact ⟨rfl, ⟨rfl, hhandle, hfleet⟩, hc⟩

/-- A step is a tick to the time that was told last and the length of a step. -/
theorem asks_step (hs : s.Ours) : Asks id (fun c : Client σ => Plain c.memory) s.step
    (.tick (s.currentTime + s.stepLength))
    (fun a r c => (r.1 = s.lifecycle.events a ∧ r.2.Ours ∧ r.2.stepLength = s.stepLength ∧
        r.2.lifecycle.SameFleet (s.lifecycle.after a)) ∧
      r.2.minExpectedQuery.cached? c.memory.cells = none ∧ Plain c.memory)
    fun _ => True := by
  unfold step stepTo
  apply Talks.ask_then (asks_advance hs _)
  rintro a ⟨events, l⟩
  apply Talks.pure
  rintro c ⟨⟨hevents, hhandle, hfleet⟩, hc⟩
  have hours : Ours { s with lifecycle := l } :=
    ⟨hs.handle_eq, hhandle.trans hs.lifecycle_eq, hs.listeners_eq, hs.observers_heed⟩
  exact ⟨rfl, ⟨hevents, hours, rfl, hfleet⟩, hc⟩

end Simulation

end TrafficControl
