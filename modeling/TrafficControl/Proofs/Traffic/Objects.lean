import TrafficControl.Proofs.Entity.Registered
import TrafficControl.Proofs.Traffic.History

/-!
# What a tick does to the objects of vehicles

An id alone does not tell which object is meant: an id that leaves and comes back gets a new one. A
tick retires the objects of the vehicles that arrive and of no others, whatever it registers anew is
an object that was not there before, and a sound registry stays sound.

* `grows_turn`: a tick brings no retired object back.
* `retired_of_arrived`: the object of a vehicle that arrives is retired.
* `keepsBut_turn`, `sound_turn`: no other record changes, and the registry stays sound.
* `turn_live_cases`: a registered object was registered before under the same id, or is new.
-/

namespace TrafficControl

/-! ### The news of a step -/

/-- Tells entities about a step, in the order in which they come. -/
def Entity.tellAll (k : Kind) (objects : List (String × Handle)) (m : Memory) : Memory :=
  objects.foldl (fun m p => m.mapCells (Entity.nextStep (k := k) ⟨p.2, p.1⟩)) m

/-- What a step does to a repository: its listing first, and then the objects that it holds. -/
theorem Repository.nextStep_eq {k : Kind} (r : Repository k) (m : Memory) :
    r.nextStep m = (if r.forwarding then Entity.tellAll k (r.objects m).toList else id)
      (if r.changing then m.mapCells (·.forget r.idList.cell) else m) := by
  have hobjects : ∀ (objects : List (String × Handle)) (m : Memory), m.mapCells (fun cells =>
      objects.foldl (fun cells p => Entity.nextStep (k := k) ⟨p.2, p.1⟩ cells) cells) =
      Entity.tellAll k objects m := by
    intro objects
    induction objects with
    | nil => exact fun m => rfl
    | cons p objects ih => exact fun m => ih (m.mapCells (Entity.nextStep (k := k) ⟨p.2, p.1⟩))
  unfold nextStep
  cases r.forwarding
  · cases r.changing <;> rfl
  · cases r.changing
    · exact hobjects _ m
    · exact hobjects _ (m.mapCells (·.forget r.idList.cell))

/-! ### What builds up deed by deed -/

section

variable {R : Memory → Memory → Prop} {observers : List Observer} {listeners : List Listener}

namespace Memory.Cumulative

variable (cumulative : Memory.Cumulative R) (heed : Lifecycle.Heed R observers listeners)

include cumulative

theorem registerNew (time : Binary64) (state : Registry × Memory) (id : String) :
    R state.2 (Lifecycle.registerNew time state id).2 := by
  by_cases hmem : id ∈ state.1
  · rw [Lifecycle.registerNew_of_mem hmem]
    exact cumulative.refl _
  · rw [Lifecycle.registerNew_of_not_mem hmem]
    exact cumulative.addVehicle id _ _

theorem registerAll (time : Binary64) (ids : List String) (live : Registry) (m : Memory) :
    R m (Lifecycle.registerAll time ids live m).2 :=
  cumulative.foldl_snd (cumulative.registerNew time) ids (live, m)

include heed

theorem tellAll (notice : Notice) (m : Memory) : R m (Observer.tellAll observers notice m) :=
  cumulative.foldl (fun o ho m => heed.observer o ho notice m) m

theorem tellTeleports (a : TickAnswer) (m : Memory) : R m (Lifecycle.tellTeleports observers a m) :=
  cumulative.trans (cumulative.foldl (fun _ _ m => cumulative.tellAll heed _ m) m)
    (cumulative.foldl (fun _ _ m => cumulative.tellAll heed _ m) _)

theorem depart (time : Binary64) (state : Registry × Memory) (id : String) :
    R state.2 (Lifecycle.depart observers time state id).2 :=
  cumulative.trans (cumulative.addVehicle id time state.2) (cumulative.tellAll heed _ _)

/-- What lies between the arrivals of a tick and the news of the step. -/
theorem untilNews (l : Lifecycle) (a : TickAnswer) (m : Memory) :
    R (Lifecycle.afterArrivals observers l a m).2
      (Lifecycle.tellTeleports observers a (Lifecycle.afterReturns observers l a m).2) := by
  have hdepart : R (Lifecycle.afterArrivals observers l a m).2
      (Lifecycle.afterDepartures observers l a m).2 :=
    cumulative.foldl_snd (cumulative.depart heed a.time) _ _
  have hreturn : R (Lifecycle.afterDepartures observers l a m).2
      (Lifecycle.afterReturns observers l a m).2 := cumulative.registerAll _ _ _ _
  exact cumulative.trans hdepart (cumulative.trans hreturn (cumulative.tellTeleports heed a _))

end Memory.Cumulative

namespace Memory.Lasting

variable (lasting : Memory.Lasting R)

include lasting

theorem tellEntities {k : Kind} (objects : List (String × Handle)) (m : Memory) :
    R m (Entity.tellAll k objects m) :=
  lasting.foldl (fun _ _ m => lasting.forgetAll _ m) m

theorem nextStep {k : Kind} (r : Repository k) (m : Memory) : R m (r.nextStep m) := by
  have hlisting : R m (if r.changing then m.mapCells (·.forget r.idList.cell) else m) := by
    cases r.changing
    · exact lasting.refl m
    · exact lasting.forgetAll [r.idList.cell] m
  rw [Repository.nextStep_eq]
  cases r.forwarding
  · exact hlisting
  · exact lasting.trans hlisting (lasting.tellEntities _ _)

/-- What the caller's listeners do, everyone does who is told about a step. -/
theorem allListeners {s : Simulation} (heed : Lifecycle.Heed R s.observers s.listeners) :
    Lifecycle.Heed R s.observers s.allListeners where
  observer := heed.observer
  listener := by
    unfold Simulation.allListeners
    simp only [List.forall_mem_append, List.forall_mem_cons]
    refine ⟨⟨?_, ?_, ?_, ?_, ?_, nofun⟩, heed.listener⟩
    · exact fun _ => lasting.nextStep s.vehicles
    · exact fun _ => lasting.nextStep s.edges
    · exact fun _ => lasting.nextStep s.lanes
    · exact fun _ => lasting.nextStep s.trafficLights
    · exact fun _ => lasting.forgetAll [s.minExpectedQuery.cell]

variable (heed : Lifecycle.Heed R observers listeners)

include heed

/-- The news of a step. -/
theorem news (l : Lifecycle) (a : TickAnswer) (m : Memory) :
    R (Lifecycle.tellTeleports observers a (Lifecycle.afterReturns observers l a m).2)
      (Lifecycle.turn observers listeners l a m).2 := by
  have hvehicles : ∀ live m, R m (Lifecycle.tellVehicles live m) := fun live m =>
    lasting.tellEntities live.toList m
  have hlisten : ∀ m, R m (Listener.tellAll listeners a.time m) := fun m =>
    lasting.foldl (fun x hx m => heed.listener x hx a.time m) m
  rw [Lifecycle.turn_snd]
  exact lasting.trans (hvehicles _ _) (hlisten _)

/-- Telling everyone at the end of a tick. -/
theorem told (l : Lifecycle) (a : TickAnswer) (m : Memory) :
    R (Lifecycle.afterReturns observers l a m).2 (Lifecycle.turn observers listeners l a m).2 :=
  lasting.trans (lasting.tellTeleports heed a _) (lasting.news heed l a m)

/-- What follows the arrivals of a tick. -/
theorem afterArrivals (l : Lifecycle) (a : TickAnswer) (m : Memory) :
    R (Lifecycle.afterArrivals observers l a m).2 (Lifecycle.turn observers listeners l a m).2 :=
  lasting.trans (lasting.untilNews heed l a m) (lasting.news heed l a m)

variable (hretire : ∀ (v : Vehicle) (m : Memory), R m (v.retire m))

include hretire

theorem arrive (time : Binary64)
    (state : Registry × Memory) (id : String) :
    R state.2 (Lifecycle.arrive observers time state id).2 := by
  obtain ⟨live, m⟩ := state
  unfold Lifecycle.arrive
  dsimp only
  split
  · exact lasting.trans (hretire _ m) (lasting.tellAll heed _ _)
  · exact lasting.addLog _ m

theorem arriveAll (time : Binary64) (ids : List String) (state : Registry × Memory) :
    R state.2 (ids.foldl (Lifecycle.arrive observers time) state).2 :=
  lasting.foldl_snd (lasting.arrive heed hretire time) ids state

/-- A tick, if retirement satisfies the relation, too. -/
theorem turn (l : Lifecycle) (a : TickAnswer) (m : Memory) :
    R m (Lifecycle.turn observers listeners l a m).2 :=
  lasting.trans (lasting.arriveAll heed hretire a.time _ (l.live, m))
    (lasting.afterArrivals heed l a m)

end Memory.Lasting

end

namespace Lifecycle

variable {observers : List Observer} {listeners : List Listener} {time : Binary64}

/-! ### Nobody comes back -/

theorem grows_foldl_arrive (heed : Heed Memory.Grows observers listeners) (ids : List String)
    (state : Registry × Memory) : state.2.Grows (ids.foldl (arrive observers time) state).2 :=
  Memory.Grows.lasting.arriveAll heed Memory.Grows.retire time ids state

/-- A tick brings no retired vehicle back. -/
theorem grows_turn (heed : Heed Memory.Grows observers listeners) (l : Lifecycle) (a : TickAnswer)
    (m : Memory) : m.Grows (turn observers listeners l a m).2 :=
  Memory.Grows.lasting.turn heed Memory.Grows.retire l a m

/-- The object of a vehicle that arrives is retired. -/
theorem retired_of_arrived (heed : Heed Memory.Grows observers listeners) {l : Lifecycle}
    {a : TickAnswer} {m : Memory} {id : String} {h : Handle} (hlive : l.live[id]? = some h)
    (hbound : h < m.nextHandle) (harr : id ∈ l.arrivedIds a) :
    ((turn observers listeners l a m).2.vehicle h).retired = true := by
  obtain ⟨earlier, later, hsplit⟩ := List.append_of_mem harr
  have hnot : id ∉ earlier := by
    have hnodup := nodup_arrivedIds l a
    rw [hsplit] at hnodup
    exact fun hmem => (List.nodup_append.mp hnodup).2.2 id hmem id List.mem_cons_self rfl
  -- the moment at which the turn of `id` comes
  obtain ⟨state, hstate⟩ : ∃ state, earlier.foldl (arrive observers a.time) (l.live, m) = state :=
    ⟨_, rfl⟩
  have hbefore : m.Grows state.2 := hstate ▸ grows_foldl_arrive heed earlier (l.live, m)
  have hregistered : state.1[id]? = some h := by
    rw [← hstate, foldl_arrive_live, if_neg hnot, hlive]
  have hretired : ((arrive observers a.time state id).2.vehicle h).retired = true := by
    obtain ⟨live, m'⟩ := state
    have harrive : arrive observers a.time (live, m') id = (live.erase id, Observer.tellAll observers
        (.arrived (Vehicle.sighting ⟨h, id⟩ (Vehicle.retire ⟨h, id⟩ m')) a.time)
        (Vehicle.retire ⟨h, id⟩ m')) := by
      unfold arrive
      dsimp only
      rw [show live[id]? = some h from hregistered]
    rw [harrive]
    refine (Memory.Grows.lasting.tellAll heed _ _).retired h ?_ ?_
    · rw [Memory.nextHandle_retire]
      exact Nat.lt_of_lt_of_le hbound hbefore.nextHandle_le
    · rw [Memory.vehicle_retire, if_pos rfl]
  have hafter : (arrive observers a.time state id).2.Grows (turn observers listeners l a m).2 := by
    refine Memory.Grows.trans ?_ (Memory.Grows.lasting.afterArrivals heed l a m)
    rw [afterArrivals, hsplit, List.foldl_append, hstate, List.foldl_cons]
    exact grows_foldl_arrive heed later _
  refine hafter.retired h ?_ hretired
  exact Nat.lt_of_lt_of_le hbound (hbefore.trans (grows_foldl_arrive heed [id] state)).nextHandle_le

/-! ### New objects -/

/-- Every registered object was registered before under the same id, or was made since. -/
def RegistersNew (s s' : Registry × Memory) : Prop :=
  s.2.nextHandle ≤ s'.2.nextHandle ∧
    ∀ (id : String) (h : Handle), s'.1[id]? = some h →
      s.1[id]? = some h ∨ (s.2.nextHandle ≤ h ∧ h < s'.2.nextHandle)

theorem RegistersNew.refl (s : Registry × Memory) : RegistersNew s s :=
  ⟨Nat.le_refl _, fun _ _ => Or.inl⟩

theorem RegistersNew.trans {s₁ s₂ s₃ : Registry × Memory} (h : RegistersNew s₁ s₂)
    (h' : RegistersNew s₂ s₃) : RegistersNew s₁ s₃ := by
  refine ⟨Nat.le_trans h.1 h'.1, fun id x hx => ?_⟩
  rcases h'.2 id x hx with hx | ⟨hle, hlt⟩
  · rcases h.2 id x hx with hx | ⟨hle, hlt⟩
    · exact Or.inl hx
    · exact Or.inr ⟨hle, Nat.lt_of_lt_of_le hlt h'.1⟩
  · exact Or.inr ⟨Nat.le_trans h.1 hle, hlt⟩

theorem RegistersNew.foldl {f : Registry × Memory → String → Registry × Memory}
    (hf : ∀ s id, RegistersNew s (f s id)) (ids : List String) (s : Registry × Memory) :
    RegistersNew s (ids.foldl f s) := by
  induction ids generalizing s with
  | nil => exact refl s
  | cons id ids ih => exact (hf s id).trans (ih _)

theorem registersNew_of_erase {s s' : Registry × Memory} {id : String}
    (hle : s.2.nextHandle ≤ s'.2.nextHandle) (hlive : s'.1 = s.1.erase id) : RegistersNew s s' := by
  refine ⟨hle, fun x h hx => Or.inl ?_⟩
  rw [hlive, Registry.getElem?_erase_eq_some] at hx
  exact hx.2

theorem registersNew_of_insert {s s' : Registry × Memory} {id : String}
    (hlt : s.2.nextHandle < s'.2.nextHandle) (hlive : s'.1 = s.1.insert id s.2.nextHandle) :
    RegistersNew s s' := by
  refine ⟨Nat.le_of_lt hlt, fun x h hx => ?_⟩
  rw [hlive, Registry.getElem?_insert_eq_some] at hx
  rcases hx with ⟨-, rfl⟩ | ⟨-, hx⟩
  · exact Or.inr ⟨Nat.le_refl _, hlt⟩
  · exact Or.inl hx

/-! ### Objects that stay -/

/-- An object that is registered in the course of the departures is registered at the end of the
tick. -/
theorem turn_live_of_departing {l : Lifecycle} {a : TickAnswer} (m : Memory)
    {earlier later : List String} (hsplit : l.departedIds a = earlier ++ later) {id : String}
    (hid : id ∈ earlier) :
    (turn observers listeners l a m).1.live[id]? =
      (earlier.foldl (depart observers a.time) (afterArrivals observers l a m)).1[id]? := by
  have hnot : id ∉ later := by
    have hnodup := nodup_departedIds l a
    rw [hsplit] at hnodup
    exact fun hmem => (List.nodup_append.mp hnodup).2.2 id hid id hmem rfl
  have hdep : id ∈ l.departedIds a := hsplit ▸ List.mem_append_left _ hid
  rw [turn_fst]
  show (afterReturns observers l a m).1[id]? = _
  rw [afterReturns, registerAll_live_of_mem _ _ ((mem_afterDepartures_iff m).mpr (Or.inr hdep)),
    afterDepartures, hsplit, List.foldl_append, foldl_depart_live_of_not_mem _ hnot]

/-- An object that is registered in the course of the returns is registered at the end of the
tick. -/
theorem turn_live_of_returning {l : Lifecycle} {a : TickAnswer} (m : Memory)
    {earlier later : List String}
    (hsplit : a.teleportEnded.toList.filter a.active.contains = earlier ++ later) {id : String}
    (hid : id ∈ (earlier.foldl (registerNew a.time) (afterDepartures observers l a m)).1) :
    (turn observers listeners l a m).1.live[id]? =
      (earlier.foldl (registerNew a.time) (afterDepartures observers l a m)).1[id]? := by
  rw [turn_fst]
  show (afterReturns observers l a m).1[id]? = _
  rw [afterReturns, registerAll, hsplit, List.foldl_append]
  exact registerAll_live_of_mem later _ hid

section Heeded

variable (heed : Heed Memory.Grows observers listeners)

include heed

theorem registersNew_arrive (s : Registry × Memory) (id : String) :
    RegistersNew s (arrive observers time s id) :=
  registersNew_of_erase (grows_foldl_arrive heed [id] s).nextHandle_le (arrive_fst s id)

theorem nextHandle_depart (s : Registry × Memory) (id : String) :
    s.2.nextHandle < (depart observers time s id).2.nextHandle :=
  (Memory.Grows.lasting.tellAll heed (.departed (Vehicle.sighting ⟨s.2.nextHandle, id⟩
    (s.2.addVehicle id time).2) time) (s.2.addVehicle id time).2).nextHandle_le

theorem registersNew_depart (s : Registry × Memory) (id : String) :
    RegistersNew s (depart observers time s id) :=
  registersNew_of_insert (nextHandle_depart heed s id) (depart_fst s id)

omit heed in
theorem registersNew_registerNew (s : Registry × Memory) (id : String) :
    RegistersNew s (registerNew time s id) := by
  by_cases hmem : id ∈ s.1
  · rw [registerNew_of_mem hmem]
    exact .refl s
  · rw [registerNew_of_not_mem hmem]
    exact registersNew_of_insert (Nat.lt_succ_self _) rfl

theorem registersNew_afterArrivals (l : Lifecycle) (a : TickAnswer) (m : Memory) :
    RegistersNew (l.live, m) (afterArrivals observers l a m) :=
  .foldl (registersNew_arrive heed) _ _

/-- An id that departs gets a new object, whatever was registered under it. -/
theorem new_of_departed {l : Lifecycle} {a : TickAnswer} {m : Memory} {id : String} {h : Handle}
    (hdep : id ∈ l.departedIds a) (hlive : (afterDepartures observers l a m).1[id]? = some h) :
    (afterArrivals observers l a m).2.nextHandle ≤ h ∧
      h < (afterDepartures observers l a m).2.nextHandle := by
  obtain ⟨earlier, later, hsplit⟩ := List.append_of_mem hdep
  rw [afterDepartures, hsplit, List.foldl_append, List.foldl_cons] at hlive ⊢
  have hnot : id ∉ later := by
    have hnodup := nodup_departedIds l a
    rw [hsplit] at hnodup
    exact (List.nodup_cons.mp (List.nodup_append.mp hnodup).2.1).1
  rw [foldl_depart_live_of_not_mem _ hnot, depart_fst, Std.ExtTreeMap.getElem?_insert_self] at hlive
  cases hlive
  have hearlier : RegistersNew (afterArrivals observers l a m)
      (earlier.foldl (depart observers a.time) (afterArrivals observers l a m)) :=
    .foldl (registersNew_depart heed) _ _
  have hlater : RegistersNew (depart observers a.time (earlier.foldl (depart observers a.time)
      (afterArrivals observers l a m)) id) (later.foldl (depart observers a.time) (depart observers
      a.time (earlier.foldl (depart observers a.time) (afterArrivals observers l a m)) id)) :=
    .foldl (registersNew_depart heed) _ _
  exact ⟨hearlier.1, Nat.lt_of_lt_of_le (nextHandle_depart heed _ id) hlater.1⟩

/-- An object that is registered after a tick was registered before under the same id, which neither
arrived nor departed, or it is new. -/
theorem turn_live_cases {l : Lifecycle} {a : TickAnswer} {m : Memory} {id : String} {h : Handle}
    (hlive : (turn observers listeners l a m).1.live[id]? = some h) :
    (l.live[id]? = some h ∧ id ∉ l.arrivedIds a ∧ id ∉ l.departedIds a) ∨
      (m.nextHandle ≤ h ∧ h < (turn observers listeners l a m).2.nextHandle) := by
  have harrivals := registersNew_afterArrivals heed l a m
  have hdepartures : RegistersNew (afterArrivals observers l a m) (afterDepartures observers l a m) :=
    .foldl (registersNew_depart heed) _ _
  have hreturns : RegistersNew (afterDepartures observers l a m) (afterReturns observers l a m) :=
    .foldl registersNew_registerNew _ _
  have htold : (afterReturns observers l a m).2.nextHandle ≤
      (turn observers listeners l a m).2.nextHandle :=
    (Memory.Grows.lasting.told heed l a m).nextHandle_le
  by_cases hdeparted : id ∈ l.departedIds a
  · -- the new object is registered until the end of the tick
    have hmem : id ∈ (afterDepartures observers l a m).1 :=
      (mem_afterDepartures_iff m).mpr (Or.inr hdeparted)
    have hdep : (afterDepartures observers l a m).1[id]? = some h :=
      (registerAll_live_of_mem _ _ hmem).symm.trans hlive
    obtain ⟨hle, hlt⟩ := new_of_departed heed hdeparted hdep
    exact Or.inr ⟨Nat.le_trans harrivals.1 hle,
      Nat.lt_of_lt_of_le hlt (Nat.le_trans hreturns.1 htold)⟩
  · rcases hreturns.2 id h hlive with hdep | ⟨hle, hlt⟩
    · rw [afterDepartures, foldl_depart_live_of_not_mem _ hdeparted, afterArrivals,
        foldl_arrive_live] at hdep
      split at hdep
      · cases hdep
      · next harr => exact Or.inl ⟨hdep, harr, hdeparted⟩
    · exact Or.inr ⟨Nat.le_trans (harrivals.trans hdepartures).1 hle, Nat.lt_of_lt_of_le hlt htold⟩

end Heeded

/-! ### Records that stay as they are -/

section Kept

variable (heed : Heed Memory.Keeps observers listeners)

include heed

theorem keepsBut_arrive (s : Registry × Memory) (id : String) :
    Memory.KeepsBut (fun h => s.1[id]? = some h) s.2 (arrive observers time s id).2 := by
  obtain ⟨live, m⟩ := s
  unfold arrive
  dsimp only
  split
  · next h hh =>
    refine .trans ((Memory.KeepsBut.retire ⟨h, id⟩ m).mono ?_)
      (.of_keeps (Memory.Keeps.lasting.tellAll heed _ _))
    rintro v rfl
    exact hh
  · exact .of_keeps (Memory.Keeps.lasting.addLog _ m)

/-- Arrivals change no record but those of the objects registered under the ids that arrive. -/
theorem keepsBut_foldl_arrive (ids : List String) (s : Registry × Memory) :
    Memory.KeepsBut (fun h => ∃ id ∈ ids, s.1[id]? = some h) s.2
      (ids.foldl (arrive observers time) s).2 := by
  induction ids generalizing s with
  | nil => exact .of_keeps (Memory.Keeps.refl _)
  | cons id ids ih =>
    refine .trans ((keepsBut_arrive heed s id).mono fun h hh => ⟨id, List.mem_cons_self, hh⟩)
      ((ih _).mono ?_)
    rintro h ⟨x, hx, hlive⟩
    rw [arrive_fst, Registry.getElem?_erase_eq_some] at hlive
    exact ⟨x, List.mem_cons_of_mem id hx, hlive.2⟩

/-- A tick changes no record but those of the objects that arrive. -/
theorem keepsBut_turn (l : Lifecycle) (a : TickAnswer) (m : Memory) :
    Memory.KeepsBut (fun h => ∃ id ∈ l.arrivedIds a, l.live[id]? = some h) m
      (turn observers listeners l a m).2 :=
  .trans (keepsBut_foldl_arrive heed _ (l.live, m))
    (.of_keeps (Memory.Keeps.lasting.afterArrivals heed l a m))

theorem sound_arrive {s : Registry × Memory} (hs : Registry.Sound s.1 s.2) (id : String) :
    Registry.Sound (arrive observers time s id).1 (arrive observers time s id).2 := by
  obtain ⟨live, m⟩ := s
  unfold arrive
  dsimp only
  split
  · next h hh =>
    refine ((hs.erase id).retire (v := ⟨h, id⟩) ?_).keeps (Memory.Keeps.lasting.tellAll heed _ _)
    intro x hx
    rw [Registry.getElem?_erase_eq_some] at hx
    exact hx.1 (hs.unique x id h hx.2 hh)
  · exact hs.keeps (Memory.Keeps.addLog _ m)

theorem sound_depart {s : Registry × Memory} (hs : Registry.Sound s.1 s.2) (id : String) :
    Registry.Sound (depart observers time s id).1 (depart observers time s id).2 :=
  (hs.insert id time).keeps (Memory.Keeps.lasting.tellAll heed _ _)

omit heed in
theorem sound_registerNew {s : Registry × Memory} (hs : Registry.Sound s.1 s.2) (id : String) :
    Registry.Sound (registerNew time s id).1 (registerNew time s id).2 := by
  by_cases hmem : id ∈ s.1
  · rw [registerNew_of_mem hmem]
    exact hs
  · rw [registerNew_of_not_mem hmem]
    exact hs.insert id time

omit heed in
theorem sound_foldl {f : Registry × Memory → String → Registry × Memory}
    (hf : ∀ s id, Registry.Sound s.1 s.2 → Registry.Sound (f s id).1 (f s id).2) (ids : List String)
    {s : Registry × Memory} (hs : Registry.Sound s.1 s.2) :
    Registry.Sound (ids.foldl f s).1 (ids.foldl f s).2 := by
  induction ids generalizing s with
  | nil => exact hs
  | cons id ids ih => exact ih (hf s id hs)

omit heed in
theorem sound_registerAll (ids : List String) {live : Registry} {m : Memory}
    (hs : live.Sound m) :
    (registerAll time ids live m).1.Sound (registerAll time ids live m).2 :=
  sound_foldl (fun _ id hs => sound_registerNew hs id) ids (s := (live, m)) hs

/-- A tick keeps the registry sound. -/
theorem sound_turn {l : Lifecycle} {m : Memory} (hs : l.live.Sound m) (a : TickAnswer) :
    (turn observers listeners l a m).1.live.Sound (turn observers listeners l a m).2 := by
  have harrivals : (afterArrivals observers l a m).1.Sound (afterArrivals observers l a m).2 :=
    sound_foldl (fun _ id hs => sound_arrive heed hs id) _ (s := (l.live, m)) hs
  have hdepartures : (afterDepartures observers l a m).1.Sound (afterDepartures observers l a m).2 :=
    sound_foldl (fun _ id hs => sound_depart heed hs id) _ harrivals
  have hreturns : (afterReturns observers l a m).1.Sound (afterReturns observers l a m).2 :=
    sound_registerAll _ hdepartures
  exact hreturns.keeps (Memory.Keeps.lasting.told heed l a m)

end Kept

end Lifecycle

end TrafficControl
