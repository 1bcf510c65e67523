import TrafficControl.Proofs.Traffic.Growth

/-!
# What a step puts out of date

`m.Forgets gone m'` says that the answers of the cells in `gone` are forgotten and that nothing else has
changed that is remembered about queries. Each part of a step forgets something: the arrivals all that
is remembered of the vehicles that leave, the news of the step what varies from step to step. Together
they forget what `Simulation.Outdated` describes.

* `Simulation.forgets_turn`: what a step forgets, once its answers are in.
-/

namespace TrafficControl

variable {α : Type} {k : Kind} {m m' m₁ m₂ m₃ : Memory} {gone gone' : Cell → Prop}

/-! ### Memories that forget -/

namespace Memory

/-- What is remembered about queries is the same, and the repositories hold what they held. -/
structure SameQueries (m m' : Memory) : Prop where
  cells_eq : m'.cells = m.cells
  holdings : SameHoldings m m'

namespace SameQueries

theorem refl (m : Memory) : SameQueries m m := ⟨rfl, rfl⟩

theorem trans (h : SameQueries m₁ m₂) (h' : SameQueries m₂ m₃) : SameQueries m₁ m₃ :=
  ⟨h'.cells_eq.trans h.cells_eq, SameHoldings.lasting.trans h.holdings h'.holdings⟩

theorem addLog (r : LogRecord) (m : Memory) : SameQueries m (m.addLog r) := ⟨rfl, rfl⟩

theorem addVehicle (id : String) (time : Binary64) (m : Memory) :
    SameQueries m (m.addVehicle id time).2 :=
  ⟨rfl, rfl⟩

theorem cumulative : Cumulative SameQueries := ⟨refl, trans, addLog, addVehicle⟩

end SameQueries

/-- What is done does not touch queries or vehicles. -/
structure Aside (m m' : Memory) : Prop extends SameQueries m m', Keeps m m'

theorem Aside.fades (h : Aside m m') : Fades m m' where
  nextHandle_le := h.nextHandle_le
  holdings := h.holdings
  cached := by
    rw [h.cells_eq]
    exact fun _ _ => id

/-- The answers of some cells are forgotten, and nothing else that is remembered about queries has
changed. -/
structure Forgets (gone : Cell → Prop) (m m' : Memory) : Prop where
  forgotten : ∀ c, gone c → m'.cells.cached[c]? = none
  kept : ∀ c, ¬ gone c → m'.cells.cached[c]? = m.cells.cached[c]?
  elsewhere : m'.cells = { m.cells with cached := m'.cells.cached }
  holdings : SameHoldings m m'

namespace Forgets

theorem of_same (h : SameQueries m m') : Forgets (fun _ => False) m m' where
  forgotten _ := False.elim
  kept c _ := by rw [h.cells_eq]
  elsewhere := by rw [h.cells_eq]
  holdings := h.holdings

theorem congr (h : Forgets gone m m') (hgone : ∀ c, gone c ↔ gone' c) : Forgets gone' m m' where
  forgotten c hc := h.forgotten c ((hgone c).mpr hc)
  kept c hc := h.kept c fun hold => hc ((hgone c).mp hold)
  elsewhere := h.elsewhere
  holdings := h.holdings

theorem trans (h : Forgets gone m₁ m₂) (h' : Forgets gone' m₂ m₃) :
    Forgets (fun c => gone c ∨ gone' c) m₁ m₃ where
  forgotten c hc := by
    by_cases hlater : gone' c
    · exact h'.forgotten c hlater
    · rw [h'.kept c hlater]
      exact h.forgotten c (hc.resolve_right hlater)
  kept c hc := by
    rw [not_or] at hc
    rw [h'.kept c hc.2, h.kept c hc.1]
  elsewhere := by rw [h'.elsewhere, h.elsewhere]
  holdings := SameHoldings.lasting.trans h.holdings h'.holdings

theorem before (h : Forgets gone m₁ m₂) (h' : SameQueries m₂ m₃) : Forgets gone m₁ m₃ :=
  (h.trans (of_same h')).congr fun c => by rw [or_false]

theorem forgetAll (cells : List Cell) (m : Memory) :
    Forgets (· ∈ cells) m (m.mapCells (·.forgetAll cells)) where
  forgotten c hc := by
    show (m.cells.forgetAll cells).cached[c]? = none
    rw [Cells.cached_forgetAll, if_pos hc]
  kept c hc := by
    show (m.cells.forgetAll cells).cached[c]? = _
    rw [Cells.cached_forgetAll, if_neg hc]
  elsewhere := Cells.forgetAll_eq m.cells cells
  holdings := rfl

/-- Several things forget what each of them forgets. -/
theorem foldl {f : Memory → α → Memory} {items : List α} {gone : α → Cell → Prop}
    (h : ∀ a ∈ items, ∀ m, Forgets (gone a) m (f m a)) (m : Memory) :
    Forgets (fun c => ∃ a ∈ items, gone a c) m (items.foldl f m) := by
  induction items generalizing m with
  | nil => exact (of_same (.refl m)).congr fun c => by simp
  | cons a items ih =>
    obtain ⟨hfirst, hrest⟩ := List.forall_mem_cons.mp h
    refine ((hfirst m).trans (ih hrest _)).congr fun c => ?_
    simp only [List.mem_cons, exists_eq_or_imp]

end Forgets

end Memory

/-! ### Entities and repositories -/

namespace Entity

/-- The cell is of a variable of the entity. -/
def Owns (e : Entity k) (c : Cell) : Prop := ∃ x : k.Variable, c = e.cell x

/-- The cell is of a variable of the entity that varies from step to step. -/
def Varies (e : Entity k) (c : Cell) : Prop :=
  ∃ x : k.Variable, (k.info x).volatility = .perStep ∧ c = e.cell x

theorem forgets_nextStep (e : Entity k) (m : Memory) :
    Memory.Forgets e.Varies m (m.mapCells e.nextStep) := by
  refine (Memory.Forgets.forgetAll (k.steppedVariables.map e.cell) m).congr fun c => ?_
  simp only [List.mem_map, Kind.steppedVariables, List.mem_filter, beq_iff_eq]
  constructor
  · rintro ⟨x, ⟨-, hx⟩, rfl⟩
    exact ⟨x, hx, rfl⟩
  · rintro ⟨x, hx, rfl⟩
    exact ⟨x, ⟨List.mem_of_getElem? (k.getElem?_index x), hx⟩, rfl⟩

theorem forgets_retire (v : Vehicle) (m : Memory) : Memory.Forgets v.Owns m (v.retire m) := by
  have hset : Memory.SameQueries m
      (m.setVehicle v.handle { m.vehicle v.handle with retired := true }) := ⟨rfl, rfl⟩
  refine ((Memory.Forgets.of_same hset).trans
    (.forgetAll (Kind.vehicle.allVariables.map v.cell) _)).congr fun c => ?_
  simp only [false_or, List.mem_map]
  constructor
  · rintro ⟨x, -, rfl⟩
    exact ⟨x, rfl⟩
  · rintro ⟨x, rfl⟩
    exact ⟨x, List.mem_of_getElem? (Kind.vehicle.getElem?_index x), rfl⟩

theorem forgets_tellAll (objects : Registry) (m : Memory) :
    Memory.Forgets (fun c => ∃ (id : String) (h : Handle), objects[id]? = some h ∧
      Varies (k := k) ⟨h, id⟩ c) m (tellAll k objects.toList m) := by
  refine (Memory.Forgets.foldl (fun p _ m => forgets_nextStep ⟨p.2, p.1⟩ m) m).congr fun c => ?_
  simp only [Prod.exists, Std.ExtTreeMap.mem_toList_iff_getElem?_eq_some]

end Entity

namespace Repository

variable {r : Repository k}

/-- The cell is of the listing, if that changes, or of what varies of the objects held, if steps are
passed on to them. -/
def Outdates (r : Repository k) (m : Memory) (c : Cell) : Prop :=
  (r.changing = true ∧ c = r.idList.cell) ∨ (r.forwarding = true ∧
    ∃ (id : String) (h : Handle), (r.objects m)[id]? = some h ∧ Entity.Varies (k := k) ⟨h, id⟩ c)

theorem forgets_nextStep (r : Repository k) (m : Memory) :
    Memory.Forgets (r.Outdates m) m (r.nextStep m) := by
  have hlisting : Memory.Forgets (fun c => r.changing = true ∧ c = r.idList.cell) m
      (if r.changing then m.mapCells (·.forget r.idList.cell) else m) := by
    cases r.changing
    · exact (Memory.Forgets.of_same (.refl m)).congr fun c => by simp
    · exact (Memory.Forgets.forgetAll [r.idList.cell] m).congr fun c => by simp
  rw [nextStep_eq]
  unfold Outdates
  cases r.forwarding
  · exact hlisting.congr fun c => by simp
  · exact (hlisting.trans (Entity.forgets_tellAll (r.objects m) _)).congr fun c => by simp

theorem outdates_of_sameHoldings (h : Memory.SameHoldings m m') : r.Outdates m' = r.Outdates m := by
  unfold Outdates Repository.objects
  rw [h.holding_eq]

end Repository

/-! ### Ticks -/

namespace Lifecycle

variable {observers : List Observer} {listeners : List Listener} {time : Binary64}
  (heed : Heed Memory.Aside observers listeners)

include heed

theorem forgets_arrive (state : Registry × Memory) (id : String) :
    Memory.Forgets (fun c => ∃ h, state.1[id]? = some h ∧ Entity.Owns (k := .vehicle) ⟨h, id⟩ c)
      state.2 (arrive observers time state id).2 := by
  obtain ⟨live, m⟩ := state
  unfold arrive
  dsimp only
  split
  · next h hlive =>
    have htold := Memory.SameQueries.cumulative.tellAll
      (heed.mono fun _ _ => Memory.Aside.toSameQueries)
      (.arrived (Vehicle.sighting ⟨h, id⟩ (Vehicle.retire ⟨h, id⟩ m)) time)
    refine ((Entity.forgets_retire ⟨h, id⟩ m).before (htold _)).congr fun c => ?_
    simp [hlive]
  · next hnone =>
    refine (Memory.Forgets.of_same (.addLog _ m)).congr fun c => ?_
    simp [hnone]

/-- Arrivals forget all that is remembered of the vehicles that are registered under the ids. -/
theorem forgets_foldl_arrive (ids : List String) (state : Registry × Memory) :
    Memory.Forgets (fun c => ∃ id ∈ ids, ∃ h, state.1[id]? = some h ∧
      Entity.Owns (k := .vehicle) ⟨h, id⟩ c) state.2 (ids.foldl (arrive observers time) state).2 := by
  induction ids generalizing state with
  | nil => exact (Memory.Forgets.of_same (.refl _)).congr fun c => by simp
  | cons id ids ih =>
    refine ((forgets_arrive heed state id).trans (ih _)).congr fun c => ?_
    rw [arrive_fst]
    constructor
    · rintro (⟨h, hlive, hc⟩ | ⟨x, hx, h, hlive, hc⟩)
      · exact ⟨id, List.mem_cons_self, h, hlive, hc⟩
      · exact ⟨x, List.mem_cons_of_mem id hx, h, (Registry.getElem?_erase_eq_some.mp hlive).2, hc⟩
    · rintro ⟨x, hx, h, hlive, hc⟩
      by_cases heq : x = id
      · subst heq
        exact Or.inl ⟨h, hlive, hc⟩
      · have hmem := (List.mem_cons.mp hx).resolve_left heq
        exact Or.inr ⟨x, hmem, h, Registry.getElem?_erase_eq_some.mpr ⟨heq, hlive⟩, hc⟩

end Lifecycle

/-! ### What is out of date after a step -/

/-- The cells whose answers a step puts out of date: all those of the vehicles that arrive, those of
the registered vehicles and of what the repositories hold that vary from step to step, the listings that
change, and the number of vehicles that are expected. -/
inductive Simulation.Outdated (s : Simulation) (a : TickAnswer) (live : Registry) (m : Memory) :
    Cell → Prop
  | arrived {id : String} {h : Handle} {c : Cell} (harrived : id ∈ s.lifecycle.arrivedIds a)
      (hlive : s.lifecycle.live[id]? = some h) (hc : Entity.Owns (k := .vehicle) ⟨h, id⟩ c) :
      Outdated s a live m c
  | registered {id : String} {h : Handle} {c : Cell} (hlive : live[id]? = some h)
      (hc : Entity.Varies (k := .vehicle) ⟨h, id⟩ c) : Outdated s a live m c
  | repository {k : Kind} {c : Cell} (hc : (s.repository k).Outdates m c) : Outdated s a live m c
  | minExpected : Outdated s a live m s.minExpectedQuery.cell

namespace Simulation

variable {s : Simulation}

/-- What those who are told about a step forget. -/
theorem forgets_listeners (heed : Lifecycle.Heed Memory.Aside s.observers s.listeners) (time : Binary64)
    (m : Memory) :
    Memory.Forgets (fun c => (∃ k, (s.repository k).Outdates m c) ∨ c = s.minExpectedQuery.cell) m
      (Listener.tellAll s.allListeners time m) := by
  have hvehicles := s.vehicles.forgets_nextStep m
  have hedges := hvehicles.trans (s.edges.forgets_nextStep _)
  have hlanes := hedges.trans (s.lanes.forgets_nextStep _)
  have hlights := hlanes.trans (s.trafficLights.forgets_nextStep _)
  have hexpected := hlights.trans (.forgetAll [s.minExpectedQuery.cell] _)
  have hcaller := hexpected.before
    (Memory.SameQueries.cumulative.foldl (fun x hx m => (heed.listener x hx time m).toSameQueries) _)
  have htold : ∀ m, Listener.tellAll s.allListeners time m = s.listeners.foldl
      (fun m x => x.nextStep time m) ((s.trafficLights.nextStep (s.lanes.nextStep (s.edges.nextStep
        (s.vehicles.nextStep m)))).mapCells (·.forgetAll [s.minExpectedQuery.cell])) := by
    intro m
    rw [Listener.tellAll, allListeners, List.foldl_append]
    rfl
  rw [htold]
  refine hcaller.congr fun c => ?_
  -- what the repositories hold does not change on the way
  rw [Repository.outdates_of_sameHoldings hvehicles.holdings,
    Repository.outdates_of_sameHoldings hedges.holdings,
    Repository.outdates_of_sameHoldings hlanes.holdings, List.mem_singleton]
  constructor
  · rintro ((((hc | hc) | hc) | hc) | hc)
    · exact Or.inl ⟨.vehicle, hc⟩
    · exact Or.inl ⟨.edge, hc⟩
    · exact Or.inl ⟨.lane, hc⟩
    · exact Or.inl ⟨.trafficLight, hc⟩
    · exact Or.inr hc
  · rintro (⟨k, hc⟩ | hc)
    · cases k with
      | vehicle => exact Or.inl (Or.inl (Or.inl (Or.inl hc)))
      | edge => exact Or.inl (Or.inl (Or.inl (Or.inr hc)))
      | lane => exact Or.inl (Or.inl (Or.inr hc))
      | trafficLight => exact Or.inl (Or.inr hc)
    · exact Or.inr hc

/-- The second half of a step forgets what the step puts out of date, and nothing else. -/
theorem forgets_turn (heed : Lifecycle.Heed Memory.Aside s.observers s.listeners) (a : TickAnswer)
    (m : Memory) :
    Memory.Forgets
      (s.Outdated a (s.lifecycle.turn s.observers s.allListeners a m).1.live m) m
      (s.lifecycle.turn s.observers s.allListeners a m).2 := by
  have harrivals : Memory.Forgets _ m (Lifecycle.afterArrivals s.observers s.lifecycle a m).2 :=
    Lifecycle.forgets_foldl_arrive heed (s.lifecycle.arrivedIds a) (s.lifecycle.live, m)
  -- between its arrivals and the news of the step a tick does not touch queries
  have hunmoved := Memory.SameQueries.cumulative.untilNews
    (heed.mono fun _ _ => Memory.Aside.toSameQueries) s.lifecycle a m
  have hregistered := (harrivals.before hunmoved).trans (Entity.forgets_tellAll (k := .vehicle)
    (Lifecycle.afterReturns s.observers s.lifecycle a m).1 _)
  refine (hregistered.trans (forgets_listeners heed a.time _)).congr fun c => ?_
  simp only [Repository.outdates_of_sameHoldings hregistered.holdings]
  constructor
  · rintro ((⟨id, harrived, h, hlive, hc⟩ | ⟨id, h, hlive, hc⟩) | (⟨k, hc⟩ | rfl))
    · exact .arrived harrived hlive hc
    · exact .registered hlive hc
    · exact .repository hc
    · exact .minExpected
  · intro houtdated
    cases houtdated with
    | arrived harrived hlive hc => exact Or.inl (Or.inl ⟨_, harrived, _, hlive, hc⟩)
    | registered hlive hc => exact Or.inl (Or.inr ⟨_, _, hlive, hc⟩)
    | repository hc => exact Or.inr (Or.inl ⟨_, hc⟩)
    | minExpected => exact Or.inr (Or.inr rfl)

end Simulation

end TrafficControl
