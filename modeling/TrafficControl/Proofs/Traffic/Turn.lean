import Mathlib.Tactic.Tauto
import TrafficControl.Proofs.Client.Outcome
import TrafficControl.Proofs.Client.Registry
import TrafficControl.Traffic.Lifecycle

/-!
# What a tick does to the registered vehicles

A tick takes the vehicles that arrived out of the registry, puts new ones in for those that
departed, and then registers what a teleport brought back and the client has not seen yet.

* `mem_departedIds_iff`, `mem_arrivedIds_iff`: who departed and who arrived, in terms of the
  listings. No id does both (`not_mem_arrivedIds_of_active`).
* `mem_turn_live_iff`: who is registered after a tick.
* `turn_live_of_unmoved`: a vehicle that neither arrived nor departed keeps its object.
* `advance_eq_ok`, `bootstrap_eq_ok`: what a call that succeeds has done.
-/

namespace TrafficControl

namespace IdSet

@[simp] theorem mem_ofIds {ids : List String} {id : String} : id ∈ ofIds ids ↔ id ∈ ids := by
  unfold ofIds
  rw [Std.ExtTreeSet.mem_ofList]
  exact List.contains_iff_mem

/-- The ids of a set are listed without repetition. -/
theorem nodup_toList (s : IdSet) : s.toList.Nodup := by
  refine s.distinct_toList.imp ?_
  rintro a b hab rfl
  exact hab Std.ReflCmp.compare_self

end IdSet

namespace Lifecycle

variable {l : Lifecycle} {a : TickAnswer} {id : String}

/-! ### Who departed and who arrived -/

theorem mem_departedIds_iff :
    id ∈ l.departedIds a ↔ id ∈ a.active ∧ id ∉ l.active ∧ id ∉ a.teleportEnded := by
  unfold departedIds IdSet.departures
  simp only [List.mem_filter, Std.ExtTreeSet.mem_toList, Bool.and_eq_true, Bool.not_eq_true',
    ← Bool.not_eq_true, Std.ExtTreeSet.contains_iff_mem]

theorem nodup_departedIds (l : Lifecycle) (a : TickAnswer) : (l.departedIds a).Nodup :=
  (IdSet.nodup_toList a.active).filter _

theorem mem_arrivedIds_iff :
    id ∈ l.arrivedIds a ↔
      id ∉ a.active ∧ (id ∈ l.active ∧ id ∉ a.teleportStarted ∨ id ∈ a.arrived ∧ id ∈ l.live) := by
  unfold arrivedIds IdSet.arrivals
  simp only [Std.ExtTreeSet.mem_toList, IdSet.mem_ofIds, List.mem_append, List.mem_filter,
    Bool.and_eq_true, Bool.not_eq_true', ← Bool.not_eq_true, Std.ExtTreeSet.contains_iff_mem,
    Std.ExtTreeMap.contains_iff_mem]
  tauto

theorem nodup_arrivedIds (l : Lifecycle) (a : TickAnswer) : (l.arrivedIds a).Nodup :=
  IdSet.nodup_toList _

/-- What is active has not arrived. -/
theorem not_mem_arrivedIds_of_active (h : id ∈ a.active) : id ∉ l.arrivedIds a :=
  fun harr => (mem_arrivedIds_iff.mp harr).1 h

/-! ### The registry through single events -/

variable {observers : List Observer} {listeners : List Listener} {time : Binary64}

theorem arrive_fst (state : Registry × Memory) (id : String) :
    (arrive observers time state id).1 = state.1.erase id := by
  obtain ⟨live, m⟩ := state
  unfold arrive
  dsimp only
  split
  · rfl
  · next h =>
    -- nothing is registered under the id, so erasing it changes nothing
    refine Std.ExtTreeMap.ext_getElem? fun x => ?_
    rw [Registry.getElem?_erase]
    by_cases hx : x = id
    · rw [if_pos hx, hx, h]
    · rw [if_neg hx]

theorem depart_fst (state : Registry × Memory) (id : String) :
    (depart observers time state id).1 = state.1.insert id state.2.nextHandle := rfl

theorem registerNew_of_mem {state : Registry × Memory} (h : id ∈ state.1) :
    registerNew time state id = state := by
  obtain ⟨live, m⟩ := state
  exact if_pos (Std.ExtTreeMap.contains_iff_mem.mpr h)

theorem registerNew_of_not_mem {state : Registry × Memory} (h : id ∉ state.1) :
    registerNew time state id =
      (state.1.insert id state.2.nextHandle, (state.2.addVehicle id time).2) := by
  obtain ⟨live, m⟩ := state
  exact if_neg fun hc => h (Std.ExtTreeMap.contains_iff_mem.mp hc)

/-! ### The registry through the phases of a tick -/

/-- Arrivals take exactly the vehicles that arrived out of the registry. -/
theorem foldl_arrive_live (ids : List String) (state : Registry × Memory) (x : String) :
    (ids.foldl (arrive observers time) state).1[x]? = if x ∈ ids then none else state.1[x]? := by
  induction ids generalizing state with
  | nil => rfl
  | cons id ids ih =>
    rw [List.foldl_cons, ih, arrive_fst, Registry.getElem?_erase]
    simp only [List.mem_cons]
    by_cases hx : x = id <;> simp [hx]

theorem mem_foldl_arrive_iff (ids : List String) (state : Registry × Memory) (x : String) :
    x ∈ (ids.foldl (arrive observers time) state).1 ↔ x ∈ state.1 ∧ x ∉ ids := by
  rw [Std.ExtTreeMap.mem_iff_isSome_getElem?, foldl_arrive_live,
    Std.ExtTreeMap.mem_iff_isSome_getElem?]
  by_cases hx : x ∈ ids <;> simp [hx]

/-- Departures register every vehicle that departed. -/
theorem mem_foldl_depart_iff (ids : List String) (state : Registry × Memory) (x : String) :
    x ∈ (ids.foldl (depart observers time) state).1 ↔ x ∈ state.1 ∨ x ∈ ids := by
  induction ids generalizing state with
  | nil => simp
  | cons id ids ih =>
    rw [List.foldl_cons, ih, depart_fst, Std.ExtTreeMap.mem_insert]
    simp only [Std.compare_eq_iff_eq, List.mem_cons, eq_comm (a := id)]
    tauto

/-- Departures leave the objects of all other ids alone. -/
theorem foldl_depart_live_of_not_mem {ids : List String} (state : Registry × Memory) {x : String}
    (hx : x ∉ ids) : (ids.foldl (depart observers time) state).1[x]? = state.1[x]? := by
  induction ids generalizing state with
  | nil => rfl
  | cons id ids ih =>
    rw [List.mem_cons, not_or] at hx
    rw [List.foldl_cons, ih _ hx.2, depart_fst, Registry.getElem?_insert, if_neg hx.1]

theorem mem_registerNew_iff (state : Registry × Memory) (x : String) :
    x ∈ (registerNew time state id).1 ↔ x ∈ state.1 ∨ x = id := by
  by_cases h : id ∈ state.1
  · rw [registerNew_of_mem h]
    constructor
    · exact Or.inl
    · rintro (hx | rfl)
      · exact hx
      · exact h
  · rw [registerNew_of_not_mem h, Std.ExtTreeMap.mem_insert, Std.compare_eq_iff_eq, or_comm,
      eq_comm]

theorem registerNew_live_of_mem {state : Registry × Memory} {x : String} (hx : x ∈ state.1) :
    (registerNew time state id).1[x]? = state.1[x]? := by
  by_cases h : id ∈ state.1
  · rw [registerNew_of_mem h]
  · rw [registerNew_of_not_mem h, Registry.getElem?_insert, if_neg]
    rintro rfl
    exact h hx

theorem mem_registerAll_iff (ids : List String) (live : Registry) (m : Memory) (x : String) :
    x ∈ (registerAll time ids live m).1 ↔ x ∈ live ∨ x ∈ ids := by
  suffices h : ∀ state : Registry × Memory,
      x ∈ (ids.foldl (registerNew time) state).1 ↔ x ∈ state.1 ∨ x ∈ ids from h (live, m)
  intro state
  induction ids generalizing state with
  | nil => simp
  | cons id ids ih =>
    rw [List.foldl_cons, ih, mem_registerNew_iff, List.mem_cons, or_assoc]

/-- Who is registered keeps the object. -/
theorem registerAll_live_of_mem (ids : List String) {live : Registry} (m : Memory) {x : String}
    (hx : x ∈ live) : (registerAll time ids live m).1[x]? = live[x]? := by
  suffices h : ∀ state : Registry × Memory, x ∈ state.1 →
      (ids.foldl (registerNew time) state).1[x]? = state.1[x]? from h (live, m) hx
  intro state hx
  induction ids generalizing state with
  | nil => rfl
  | cons id ids ih =>
    rw [List.foldl_cons, ih _ ((mem_registerNew_iff state x).mpr (Or.inl hx)),
      registerNew_live_of_mem hx]

/-! ### The registry after a tick -/

/-- The registry and the memory when the arrivals of a tick have been dealt with. -/
def afterArrivals (observers : List Observer) (l : Lifecycle) (a : TickAnswer) (m : Memory) :
    Registry × Memory :=
  (l.arrivedIds a).foldl (arrive observers a.time) (l.live, m)

/-- The registry and the memory when the departures of a tick have been dealt with, too. -/
def afterDepartures (observers : List Observer) (l : Lifecycle) (a : TickAnswer) (m : Memory) :
    Registry × Memory :=
  (l.departedIds a).foldl (depart observers a.time) (afterArrivals observers l a m)

/-- The registry and the memory when everyone that a tick registers is registered. -/
def afterReturns (observers : List Observer) (l : Lifecycle) (a : TickAnswer) (m : Memory) :
    Registry × Memory :=
  registerAll a.time (a.teleportEnded.toList.filter a.active.contains)
    (afterDepartures observers l a m).1 (afterDepartures observers l a m).2

theorem turn_fst (m : Memory) :
    (turn observers listeners l a m).1 =
      { l with active := a.active, clock := a.time, live := (afterReturns observers l a m).1 } :=
  rfl

theorem turn_snd (m : Memory) :
    (turn observers listeners l a m).2 =
      Listener.tellAll listeners a.time
        (tellVehicles (afterReturns observers l a m).1
          (tellTeleports observers a (afterReturns observers l a m).2)) :=
  rfl

theorem mem_afterDepartures_iff (m : Memory) :
    id ∈ (afterDepartures observers l a m).1 ↔
      id ∈ l.live ∧ id ∉ l.arrivedIds a ∨ id ∈ l.departedIds a := by
  rw [afterDepartures, mem_foldl_depart_iff, afterArrivals, mem_foldl_arrive_iff]

/-- Registered after a tick is who was and did not arrive, who departed, and who is active and came
back from a teleport. -/
theorem mem_turn_live_iff (m : Memory) :
    id ∈ (turn observers listeners l a m).1.live ↔
      (id ∈ l.live ∧ id ∉ l.arrivedIds a) ∨ id ∈ l.departedIds a ∨
        (id ∈ a.teleportEnded ∧ id ∈ a.active) := by
  rw [turn_fst]
  show id ∈ (afterReturns observers l a m).1 ↔ _
  rw [afterReturns, mem_registerAll_iff, mem_afterDepartures_iff, or_assoc]
  simp only [List.mem_filter, Std.ExtTreeSet.mem_toList, Std.ExtTreeSet.contains_iff_mem]

/-- A registered vehicle that neither arrived nor departed keeps its object. -/
theorem turn_live_of_unmoved (m : Memory) (hmem : id ∈ l.live) (harr : id ∉ l.arrivedIds a)
    (hdep : id ∉ l.departedIds a) :
    (turn observers listeners l a m).1.live[id]? = l.live[id]? := by
  rw [turn_fst]
  show (afterReturns observers l a m).1[id]? = _
  rw [afterReturns, registerAll_live_of_mem _ _
    ((mem_afterDepartures_iff m).mpr (Or.inl ⟨hmem, harr⟩)), afterDepartures,
    foldl_depart_live_of_not_mem _ hdep, afterArrivals, foldl_arrive_live, if_neg harr]

/-- What is active after a tick is registered, if what was active before it was. -/
theorem active_registered_turn (m : Memory) (h : ∀ x ∈ l.active, x ∈ l.live)
    (hid : id ∈ a.active) : id ∈ (turn observers listeners l a m).1.live := by
  rw [mem_turn_live_iff, mem_departedIds_iff]
  by_cases hbefore : id ∈ l.active
  · exact Or.inl ⟨h id hbefore, not_mem_arrivedIds_of_active hid⟩
  · by_cases hended : id ∈ a.teleportEnded
    · exact Or.inr (Or.inr ⟨hended, hid⟩)
    · exact Or.inr (Or.inl ⟨hid, hbefore, hended⟩)

/-! ### Calls that succeed -/

section Calls

variable {σ : Type} [Link σ] {c c' : Client σ} {target : Binary64} {events : StepEvents}
  {l' : Lifecycle}

omit [Link σ] in
theorem fetched_cellsOnly (α : Type) [Readable α] (q : ReadQuery) :
    (fetched α q : Action σ α).CellsOnly := by
  refine Action.CellsOnly.bind Action.CellsOnly.memory fun m => ?_
  split
  · exact Action.CellsOnly.ofExcept _
  · exact Action.CellsOnly.throw _

omit [Link σ] in
theorem fetchedIds_cellsOnly (q : ReadQuery) : (fetchedIds q : Action σ IdSet).CellsOnly :=
  Action.CellsOnly.map _ (fetched_cellsOnly _ q)

/-- Getting the answers of a tick changes nothing but what is remembered about queries. -/
theorem ask_cellsOnly (l : Lifecycle) (target : Binary64) :
    (l.ask target : Action σ TickAnswer).CellsOnly :=
  Action.CellsOnly.bind (Action.CellsOnly.updateCells _) fun _ =>
    Action.CellsOnly.bind (Action.dispatch_cellsOnly _) fun _ =>
    Action.CellsOnly.bind (fetched_cellsOnly _ _) fun _ =>
    Action.CellsOnly.bind (fetchedIds_cellsOnly _) fun _ =>
    Action.CellsOnly.bind (fetchedIds_cellsOnly _) fun _ =>
    Action.CellsOnly.bind (fetchedIds_cellsOnly _) fun _ =>
    Action.CellsOnly.bind (fetched_cellsOnly _ _) fun _ => Action.CellsOnly.pure _

/-- A tick that succeeds got its answers and then did what a tick does. -/
theorem advance_eq_ok (h : l.advance target observers listeners c = .ok (events, l') c') :
    ∃ a c₁, l.ask target c = .ok a c₁ ∧ events = l.events a ∧
      l' = (turn observers listeners l a c₁.memory).1 ∧
      c'.memory = (turn observers listeners l a c₁.memory).2 := by
  obtain ⟨a, c₁, hask, h⟩ := EStateM.bind_eq_ok_iff.mp h
  obtain ⟨next, c₂, hturn, h⟩ := EStateM.bind_eq_ok_iff.mp h
  cases hturn
  cases h
  exact ⟨a, c₁, hask, rfl, rfl, rfl⟩

/-- What a tick that succeeds did with the answers it is known to have got. -/
theorem advance_eq_ok_of_ask {a : TickAnswer} {c₁ : Client σ} (hask : l.ask target c = .ok a c₁)
    (h : l.advance target observers listeners c = .ok (events, l') c') :
    events = l.events a ∧ l' = (turn observers listeners l a c₁.memory).1 ∧
      c'.memory = (turn observers listeners l a c₁.memory).2 := by
  obtain ⟨a', c₂, hask', hevents, hlife, hmem⟩ := advance_eq_ok h
  rw [hask] at hask'
  cases hask'
  exact ⟨hevents, hlife, hmem⟩

/-- A tick that fails has changed nothing but what is remembered about queries. -/
theorem advance_eq_error {e : ClientError}
    (h : l.advance target observers listeners c = .error e c') :
    Memory.SameButCells c.memory c'.memory := by
  rcases hask : l.ask target c with ⟨a, c₁⟩ | ⟨e', c₁⟩
  · rw [advance, EStateM.bind_of_ok hask] at h
    cases h
  · rw [advance, EStateM.bind_of_error hask] at h
    cases h
    exact (ask_cellsOnly l target).of_error hask

/-- A bootstrap that succeeds got the active ids and registered them. -/
theorem bootstrap_eq_ok (h : l.bootstrap c = .ok l' c') :
    ∃ (time : Binary64) (active : IdSet) (m : Memory), Memory.SameButCells c.memory m ∧
      l' = { l with active, clock := time, live := (registerAll time active.toList l.live m).1 } ∧
      c'.memory = (registerAll time active.toList l.live m).2.addLog
        (.bootstrapped time active.size) := by
  obtain ⟨_, c₁, hdispatch, h⟩ := EStateM.bind_eq_ok_iff.mp h
  obtain ⟨time, c₂, htime, h⟩ := EStateM.bind_eq_ok_iff.mp h
  obtain ⟨active, c₃, hactive, h⟩ := EStateM.bind_eq_ok_iff.mp h
  obtain ⟨live, c₄, hlive, h⟩ := EStateM.bind_eq_ok_iff.mp h
  obtain ⟨_, c₅, hlog, h⟩ := EStateM.bind_eq_ok_iff.mp h
  cases hlive
  cases hlog
  cases h
  have hcells : Memory.SameButCells c.memory c₃.memory :=
    ((Action.dispatch_cellsOnly _).of_ok hdispatch).trans
      (((fetched_cellsOnly _ _).of_ok htime).trans ((fetchedIds_cellsOnly _).of_ok hactive))
  exact ⟨time, active, c₃.memory, hcells, rfl, rfl⟩

end Calls

end Lifecycle

end TrafficControl
