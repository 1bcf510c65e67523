import TrafficControl.Proofs.Text.ByteOrder
import TrafficControl.Proofs.Traffic.FailedTicks

/-!
# A tick, act by act

What a tick does is a list of acts, each with the state of the lifecycle and the memory that it finds and
the one that it leaves (`Act.Does`). `Lifecycle.script` writes the acts of a tick down from what the
simulator said and from who was registered. Two things only it has to be told: the new objects, and what an
arriving vehicle looked like when it was told about.

* `acts_turn`: a tick does the acts of its script, one after another, and nothing else.
* `reports_events`: who is reported, in terms of the listings, and in which order.
* `advance_acts`: both, for every tick whose reply is accepted.
-/

namespace TrafficControl

/-! ### Acts -/

/-- One thing that is done in the course of a tick. -/
inductive Act where
  /-- A vehicle is no longer registered. -/
  | unregister (v : Vehicle)
  | retire (v : Vehicle)
  /-- The log takes down that a vehicle arrived which is not registered. -/
  | warn (id : String) (time : Binary64)
  /-- A new vehicle is registered that departed at a time. -/
  | register (v : Vehicle) (time : Binary64)
  | tell (o : Observer) (notice : Notice)
  /-- The active ids and the time become what the simulator said. -/
  | settle (active : IdSet) (time : Binary64)
  /-- A vehicle hears of the step. -/
  | pass (v : Vehicle)
  /-- A listener hears of the step. -/
  | hear (x : Listener) (time : Binary64)

/-- What an act finds and what it leaves. -/
inductive Act.Does : Act → Lifecycle × Memory → Lifecycle × Memory → Prop
  | unregister {l : Lifecycle} {m : Memory} (v : Vehicle) (h : l.live[v.id]? = some v.handle) :
    Does (.unregister v) (l, m) ({ l with live := l.live.erase v.id }, m)
  | retire {l : Lifecycle} {m : Memory} (v : Vehicle) : Does (.retire v) (l, m) (l, v.retire m)
  | warn {l : Lifecycle} {m : Memory} {id : String} (time : Binary64) (h : id ∉ l.live) :
    Does (.warn id time) (l, m) (l, m.addLog (.unknownArrival time id))
  | register {l : Lifecycle} {m : Memory} (v : Vehicle) (time : Binary64)
      (h : v.handle = m.nextHandle) :
    Does (.register v time) (l, m)
      ({ l with live := l.live.insert v.id v.handle }, (m.addVehicle v.id time).2)
  | tell {l : Lifecycle} {m : Memory} (o : Observer) (notice : Notice) :
    Does (.tell o notice) (l, m) (l, o.tell notice m)
  | settle {l : Lifecycle} {m : Memory} (active : IdSet) (time : Binary64) :
    Does (.settle active time) (l, m) ({ l with active, clock := time }, m)
  | pass {l : Lifecycle} {m : Memory} (v : Vehicle) :
    Does (.pass v) (l, m) (l, m.mapCells v.nextStep)
  | hear {l : Lifecycle} {m : Memory} (x : Listener) (time : Binary64) :
    Does (.hear x time) (l, m) (l, x.nextStep time m)

/-- These acts, one after another. -/
inductive Acts : Lifecycle × Memory → List Act → Lifecycle × Memory → Prop
  | none (s : Lifecycle × Memory) : Acts s [] s
  | act {s s₁ s' : Lifecycle × Memory} {act : Act} {acts : List Act} (h : act.Does s s₁)
      (rest : Acts s₁ acts s') : Acts s (act :: acts) s'

namespace Acts

variable {s s₁ s' : Lifecycle × Memory} {acts acts' : List Act}

theorem one {act : Act} (h : act.Does s s') : Acts s [act] s' := .act h (.none s')

theorem append (h : Acts s acts s₁) (h' : Acts s₁ acts' s') : Acts s (acts ++ acts') s' := by
  induction h with
  | none => exact h'
  | act hd _ ih => exact .act hd (ih h')

/-- What is done to the memory for each thing of a list. -/
theorem foldl {α : Type} {does : α → List Act} {f : Memory → α → Memory} {l : Lifecycle}
    (h : ∀ x m, Acts (l, m) (does x) (l, f m x)) (items : List α) (m : Memory) :
    Acts (l, m) (items.flatMap does) (l, items.foldl f m) := by
  induction items generalizing m with
  | nil => exact .none _
  | cons x items ih =>
    rw [List.flatMap_cons, List.foldl_cons]
    exact (h x m).append (ih _)

/-- One act for each thing of a list. -/
theorem foldl_one {α : Type} {act : α → Act} {f : Memory → α → Memory} {l : Lifecycle}
    (h : ∀ x m, (act x).Does (l, m) (l, f m x)) (items : List α) (m : Memory) :
    Acts (l, m) (items.map act) (l, items.foldl f m) := by
  rw [List.map_eq_flatMap]
  exact foldl (fun x m => one (h x m)) items m

end Acts

namespace Lifecycle

/-! ### The acts of a tick -/

/-- A notice goes round all observers, in order. -/
def round (observers : List Observer) (notice : Notice) : List Act :=
  observers.map (Act.tell · notice)

/-- The acts for an id that arrives: its vehicle is no longer registered, it is retired, and everyone is
told. If there is none, the log gets a warning. -/
def arrivalActs (observers : List Observer) (time : Binary64) (live : Registry)
    (record : String → VehicleRecord) (id : String) : List Act :=
  match live[id]? with
  | some h => .unregister ⟨h, id⟩ :: .retire ⟨h, id⟩ ::
      round observers (.arrived ⟨h, id, record id⟩ time)
  | none => [.warn id time]

/-- The acts for an id that departs: a new vehicle is registered, and everyone is told. -/
def departureActs (observers : List Observer) (time : Binary64) (made : String → Handle)
    (id : String) : List Act :=
  .register ⟨made id, id⟩ time ::
    round observers (.departed ⟨made id, id, { departTime := time }⟩ time)

/-- The ids that a tick registers without a word: those that are active, back from a teleport, and not
registered. Under such an id nothing arrives or departs, so it makes no difference when one looks. -/
def returningIds (l : Lifecycle) (a : TickAnswer) : List String :=
  a.teleportEnded.toList.filter fun id => a.active.contains id && !l.live.contains id

/-- The acts of a tick, in order. `after` is who is registered when it is over, `made` are the new objects,
and `record` is what an arriving vehicle looks like when it is told about. -/
def script (observers : List Observer) (listeners : List Listener) (l : Lifecycle) (a : TickAnswer)
    (after : Registry) (made : String → Handle) (record : String → VehicleRecord) : List Act :=
  (l.events a).arrived.flatMap (arrivalActs observers a.time l.live record) ++
  (l.events a).departed.flatMap (departureActs observers a.time made) ++
  (l.returningIds a).map (fun id => .register ⟨made id, id⟩ a.time) ++
  ((l.events a).teleportStarted.flatMap (fun id => round observers (.teleportStarted id a.time)) ++
    (l.events a).teleportEnded.flatMap fun id => round observers (.teleportEnded id a.time)) ++
  .settle a.active a.time ::
    (after.toList.map (fun p => .pass ⟨p.2, p.1⟩) ++ listeners.map (.hear · a.time))

/-! ### Who is told what -/

/-- The id of the vehicle whose departure or arrival is told. -/
def movedId? : Notice → Option String
  | .departed vehicle _ | .arrived vehicle _ => some vehicle.id
  | _ => none

theorem eq_of_tell_mem_round {observers : List Observer} {notice n : Notice} {o : Observer}
    (h : Act.tell o n ∈ round observers notice) : n = notice := by
  obtain ⟨o', -, heq⟩ := List.mem_map.mp h
  cases heq
  rfl

theorem movedId?_of_arrivalActs {observers : List Observer} {time : Binary64} {live : Registry}
    {record : String → VehicleRecord} {id : String} {o : Observer} {n : Notice}
    (h : .tell o n ∈ arrivalActs observers time live record id) : movedId? n = some id := by
  unfold arrivalActs at h
  split at h
  · simp only [List.mem_cons, reduceCtorEq, false_or] at h
    rw [eq_of_tell_mem_round h]
    rfl
  · simp only [List.mem_singleton, reduceCtorEq] at h

theorem movedId?_of_departureActs {observers : List Observer} {time : Binary64}
    {made : String → Handle} {id : String} {o : Observer} {n : Notice}
    (h : .tell o n ∈ departureActs observers time made id) : movedId? n = some id := by
  unfold departureActs at h
  simp only [List.mem_cons, reduceCtorEq, false_or] at h
  rw [eq_of_tell_mem_round h]
  rfl

/-- An observer is told of no departure or arrival but of those that are reported. -/
theorem reported_of_told {observers : List Observer} {listeners : List Listener} {l : Lifecycle}
    {a : TickAnswer} {after : Registry} {made : String → Handle} {record : String → VehicleRecord}
    {o : Observer} {n : Notice} {id : String}
    (htold : .tell o n ∈ l.script observers listeners a after made record)
    (hmoved : movedId? n = some id) : id ∈ (l.events a).departed ∨ id ∈ (l.events a).arrived := by
  unfold script at htold
  simp only [List.mem_append, List.mem_cons, List.mem_map, List.mem_flatMap, reduceCtorEq, and_false,
    exists_false, or_false] at htold
  rcases htold with (⟨x, hx, h⟩ | ⟨x, hx, h⟩) | ⟨x, -, h⟩ | ⟨x, -, h⟩
  · rw [movedId?_of_arrivalActs h] at hmoved
    exact Or.inr (Option.some.inj hmoved ▸ hx)
  · rw [movedId?_of_departureActs h] at hmoved
    exact Or.inl (Option.some.inj hmoved ▸ hx)
  -- the notices of teleports are about no departure or arrival
  all_goals
    rw [eq_of_tell_mem_round h] at hmoved
    cases hmoved

/-! ### The phases -/

variable {observers : List Observer} {time : Binary64}

theorem acts_round (observers : List Observer) (notice : Notice) (l : Lifecycle) (m : Memory) :
    Acts (l, m) (round observers notice) (l, Observer.tellAll observers notice m) :=
  Acts.foldl_one (fun o _ => .tell o notice) observers m

theorem arrivalActs_of_mem {live : Registry} {id : String} {h : Handle} (hreg : live[id]? = some h)
    (record : String → VehicleRecord) :
    arrivalActs observers time live record id = .unregister ⟨h, id⟩ :: .retire ⟨h, id⟩ ::
      round observers (.arrived ⟨h, id, record id⟩ time) := by
  unfold arrivalActs
  rw [hreg]

theorem arrivalActs_of_not_mem {live : Registry} {id : String} (hreg : id ∉ live)
    (record : String → VehicleRecord) :
    arrivalActs observers time live record id = [.warn id time] := by
  unfold arrivalActs
  rw [Std.ExtTreeMap.getElem?_eq_none hreg]

theorem arrivalActs_congr {live live' : Registry} {record record' : String → VehicleRecord}
    {id : String} (hlive : live[id]? = live'[id]?) (hrecord : record id = record' id) :
    arrivalActs observers time live record id = arrivalActs observers time live' record' id := by
  unfold arrivalActs
  rw [hlive, hrecord]

/-- The arrival of one id. Whatever the record shows of the vehicle, it shows it retired. -/
theorem acts_arrive (observers : List Observer) (time : Binary64) (id : String) (l : Lifecycle)
    (m : Memory) :
    ∃ seen : VehicleRecord, seen.retired = true ∧ ∀ record : String → VehicleRecord,
      record id = seen → Acts (l, m) (arrivalActs observers time l.live record id)
        ({ l with live := (arrive observers time (l.live, m) id).1 },
          (arrive observers time (l.live, m) id).2) := by
  by_cases hmem : id ∈ l.live
  · obtain ⟨h, hreg⟩ := Registry.mem_iff_exists.mp hmem
    obtain ⟨seen, hretired, harrive⟩ := arrive_of_mem observers time m hreg
    refine ⟨seen, hretired, fun record hrecord => ?_⟩
    rw [arrivalActs_of_mem hreg, harrive, hrecord]
    exact .act (.unregister ⟨h, id⟩ hreg) (.act (.retire _) (acts_round _ _ _ _))
  · refine ⟨{ retired := true }, rfl, fun record _ => ?_⟩
    have harrive : arrive observers time (l.live, m) id =
        (l.live, m.addLog (.unknownArrival time id)) := by
      unfold arrive
      dsimp only
      rw [Std.ExtTreeMap.getElem?_eq_none hmem]
    rw [arrivalActs_of_not_mem hmem, harrive]
    exact .one (.warn time hmem)

/-- Arrivals are acted out one id after another. -/
theorem acts_arrivals (observers : List Observer) (time : Binary64) {ids : List String}
    (hnodup : ids.Nodup) (l : Lifecycle) (m : Memory) :
    ∃ record : String → VehicleRecord, (∀ id, (record id).retired = true) ∧
      Acts (l, m) (ids.flatMap (arrivalActs observers time l.live record))
        ({ l with live := (ids.foldl (arrive observers time) (l.live, m)).1 },
          (ids.foldl (arrive observers time) (l.live, m)).2) := by
  induction ids generalizing l m with
  | nil => exact ⟨fun _ => { retired := true }, fun _ => rfl, .none _⟩
  | cons id ids ih =>
    obtain ⟨hnot, hnodup⟩ := List.nodup_cons.mp hnodup
    obtain ⟨seen, hseen, hfirst⟩ := acts_arrive observers time id l m
    obtain ⟨record, hretired, hrest⟩ := ih hnodup
      { l with live := (arrive observers time (l.live, m) id).1 } (arrive observers time (l.live, m) id).2
    refine ⟨Function.update record id seen, fun x => ?_, ?_⟩
    · by_cases hx : x = id
      · rw [hx, Function.update_self]
        exact hseen
      · rw [Function.update_of_ne hx]
        exact hretired x
    · -- the ids that are left are other ones, which this arrival leaves registered
      have hlater : ids.flatMap (arrivalActs observers time l.live (Function.update record id seen)) =
          ids.flatMap (arrivalActs observers time (arrive observers time (l.live, m) id).1 record) := by
        refine List.flatMap_congr fun x hx => ?_
        have hne : x ≠ id := fun heq => hnot (heq ▸ hx)
        refine arrivalActs_congr ?_ (Function.update_of_ne hne _ _)
        rw [arrive_fst, Registry.getElem?_erase, if_neg hne]
      rw [List.flatMap_cons, List.foldl_cons, hlater]
      exact (hfirst _ (Function.update_self _ _ _)).append hrest

/-- The departure of one id. -/
theorem acts_depart {id : String} {made : String → Handle} (l : Lifecycle) {m : Memory}
    (hmade : made id = m.nextHandle) :
    Acts (l, m) (departureActs observers time made id)
      ({ l with live := (depart observers time (l.live, m) id).1 },
        (depart observers time (l.live, m) id).2) := by
  have hsighting : Vehicle.sighting ⟨m.nextHandle, id⟩ (m.addVehicle id time).2 =
      ⟨m.nextHandle, id, { departTime := time }⟩ := by
    unfold Vehicle.sighting
    rw [Memory.vehicle_addVehicle, if_pos rfl]
  have hdepart : depart observers time (l.live, m) id = (l.live.insert id m.nextHandle,
      Observer.tellAll observers (.departed ⟨m.nextHandle, id, { departTime := time }⟩ time)
        (m.addVehicle id time).2) := by
    rw [← hsighting]
    rfl
  unfold departureActs
  rw [hdepart, hmade]
  exact .act (.register ⟨m.nextHandle, id⟩ time rfl) (acts_round _ _ _ _)

/-- Departures are acted out one id after another; `made` says which objects were made. -/
theorem acts_departures {ids : List String} (hnodup : ids.Nodup) {made : String → Handle}
    (l : Lifecycle) (m : Memory)
    (hmade : ∀ id ∈ ids, (ids.foldl (depart observers time) (l.live, m)).1[id]? = some (made id)) :
    Acts (l, m) (ids.flatMap (departureActs observers time made))
      ({ l with live := (ids.foldl (depart observers time) (l.live, m)).1 },
        (ids.foldl (depart observers time) (l.live, m)).2) := by
  induction ids generalizing l m with
  | nil => exact .none _
  | cons id ids ih =>
    obtain ⟨hnot, hnodup⟩ := List.nodup_cons.mp hnodup
    obtain ⟨hfirst, hlater⟩ := List.forall_mem_cons.mp hmade
    rw [List.foldl_cons] at hfirst hlater ⊢
    have hhandle : made id = m.nextHandle := by
      rw [foldl_depart_live_of_not_mem _ hnot, depart_fst, Std.ExtTreeMap.getElem?_insert_self] at hfirst
      exact (Option.some.inj hfirst).symm
    rw [List.flatMap_cons]
    exact (acts_depart l hhandle).append
      (ih hnodup { l with live := (depart observers time (l.live, m) id).1 } _ hlater)

/-- Vehicles that are not registered yet are registered one after another, without a word. -/
theorem acts_registerAll {ids : List String} (hnodup : ids.Nodup) {made : String → Handle}
    (l : Lifecycle) (m : Memory)
    (hmade : ∀ id ∈ ids, id ∉ l.live → (registerAll time ids l.live m).1[id]? = some (made id)) :
    Acts (l, m) ((ids.filter fun id => !l.live.contains id).map fun id =>
        .register ⟨made id, id⟩ time)
      ({ l with live := (registerAll time ids l.live m).1 }, (registerAll time ids l.live m).2) := by
  induction ids generalizing l m with
  | nil => exact .none _
  | cons id ids ih =>
    obtain ⟨hnot, hnodup⟩ := List.nodup_cons.mp hnodup
    obtain ⟨hfirst, hlater⟩ := List.forall_mem_cons.mp hmade
    by_cases hmem : id ∈ l.live
    · have hstep : registerAll time (id :: ids) l.live m = registerAll time ids l.live m := by
        unfold registerAll
        rw [List.foldl_cons, registerNew_of_mem hmem]
      rw [hstep] at hlater ⊢
      have hin : l.live.contains id = true := Std.ExtTreeMap.contains_iff_mem.mpr hmem
      rw [List.filter_cons_of_neg (by rw [hin]; exact Bool.false_ne_true)]
      exact ih hnodup l m hlater
    · have hstep : registerAll time (id :: ids) l.live m =
          registerAll time ids (l.live.insert id m.nextHandle) (m.addVehicle id time).2 := by
        unfold registerAll
        rw [List.foldl_cons, registerNew_of_not_mem hmem]
      rw [hstep] at hfirst hlater ⊢
      have hfirst := hfirst hmem
      have hhandle : made id = m.nextHandle := by
        rw [registerAll_live_of_mem _ _ Std.ExtTreeMap.mem_insert_self,
          Std.ExtTreeMap.getElem?_insert_self] at hfirst
        exact (Option.some.inj hfirst).symm
      have hfilter : (ids.filter fun x => !(l.live.insert id m.nextHandle).contains x) =
          ids.filter fun x => !l.live.contains x := by
        refine List.filter_congr fun x hx => ?_
        have hne : id ≠ x := fun heq => hnot (heq ▸ hx)
        rw [Std.ExtTreeMap.contains_insert]
        simp [hne]
      have hrest := ih hnodup { l with live := l.live.insert id m.nextHandle } (m.addVehicle id time).2
        fun x hx hnew => hlater x hx fun hin => hnew (Std.ExtTreeMap.mem_insert.mpr (Or.inr hin))
      have hout : l.live.contains id = false :=
        Bool.eq_false_iff.mpr fun hin => hmem (Std.ExtTreeMap.contains_iff_mem.mp hin)
      rw [hfilter] at hrest
      rw [List.filter_cons_of_pos (by rw [hout]; rfl), List.map_cons, hhandle]
      exact .act (.register ⟨m.nextHandle, id⟩ time rfl) hrest

/-! ### The whole tick -/

variable {listeners : List Listener} {l : Lifecycle} {a : TickAnswer} {m : Memory} {id : String}

theorem mem_returningIds_iff :
    id ∈ l.returningIds a ↔ id ∈ a.teleportEnded ∧ id ∈ a.active ∧ id ∉ l.live := by
  unfold returningIds
  simp only [List.mem_filter, Std.ExtTreeSet.mem_toList, Bool.and_eq_true, Bool.not_eq_true',
    ← Bool.not_eq_true, Std.ExtTreeSet.contains_iff_mem, Std.ExtTreeMap.contains_iff_mem]

/-- When the returning vehicles are looked up, the registry says about them what it said before the
tick. -/
theorem returningIds_eq (observers : List Observer) (l : Lifecycle) (a : TickAnswer) (m : Memory) :
    (a.teleportEnded.toList.filter a.active.contains).filter
      (fun id => !(afterDepartures observers l a m).1.contains id) = l.returningIds a := by
  rw [List.filter_filter]
  refine List.filter_congr fun id hid => ?_
  have hended : id ∈ a.teleportEnded := Std.ExtTreeSet.mem_toList.mp hid
  by_cases hactive : id ∈ a.active
  · have hiff : id ∈ (afterDepartures observers l a m).1 ↔ id ∈ l.live := by
      rw [mem_afterDepartures_iff]
      constructor
      · rintro (⟨hlive, -⟩ | hdep)
        · exact hlive
        · exact absurd hended (mem_departedIds_iff.mp hdep).2.2
      · exact fun hlive => Or.inl ⟨hlive, not_mem_arrivedIds_of_active hactive⟩
    have hcontains : (afterDepartures observers l a m).1.contains id = l.live.contains id :=
      Bool.eq_iff_iff.mpr (by rw [Std.ExtTreeMap.contains_iff_mem, Std.ExtTreeMap.contains_iff_mem, hiff])
    rw [hcontains, Bool.and_comm]
  · have hout : a.active.contains id = false :=
      Bool.eq_false_iff.mpr fun hin => hactive (Std.ExtTreeSet.contains_iff_mem.mp hin)
    rw [hout, Bool.and_false, Bool.false_and]

theorem acts_tellTeleports (observers : List Observer) (l₀ : Lifecycle) (a : TickAnswer) (m : Memory) :
    Acts (l₀, m)
      (a.teleportStarted.toList.flatMap (fun id => round observers (.teleportStarted id a.time)) ++
        a.teleportEnded.toList.flatMap fun id => round observers (.teleportEnded id a.time))
      (l₀, tellTeleports observers a m) :=
  (Acts.foldl (fun _ m => acts_round observers _ l₀ m) a.teleportStarted.toList m).append
    (Acts.foldl (fun _ m => acts_round observers _ l₀ m) a.teleportEnded.toList _)

/-- The new objects of a tick are registered when it is over. -/
def Made (l : Lifecycle) (a : TickAnswer) (after : Registry) (made : String → Handle) : Prop :=
  ∀ id, id ∈ (l.events a).departed ∨ id ∈ l.returningIds a → after[id]? = some (made id)

/-- Some objects are the new ones. -/
theorem exists_made (observers : List Observer) (listeners : List Listener) (l : Lifecycle)
    (a : TickAnswer) (m : Memory) :
    ∃ made, l.Made a (turn observers listeners l a m).1.live made := by
  refine ⟨fun id => (turn observers listeners l a m).1.live.getD id 0, fun id hid => ?_⟩
  have hmem : id ∈ (turn observers listeners l a m).1.live := by
    rw [mem_turn_live_iff]
    rcases hid with hdep | hret
    · exact Or.inr (Or.inl hdep)
    · obtain ⟨hended, hactive, -⟩ := mem_returningIds_iff.mp hret
      exact Or.inr (Or.inr ⟨hended, hactive⟩)
  obtain ⟨h, hh⟩ := Registry.mem_iff_exists.mp hmem
  show _ = some ((turn observers listeners l a m).1.live.getD id 0)
  rw [Std.ExtTreeMap.getD_eq_getD_getElem?, hh, Option.getD_some]

/-- A tick does the acts of its script. -/
theorem acts_turn {made : String → Handle} (observers : List Observer) (listeners : List Listener)
    (l : Lifecycle) (a : TickAnswer) (m : Memory)
    (hmade : l.Made a (turn observers listeners l a m).1.live made) :
    ∃ record : String → VehicleRecord, (∀ id, (record id).retired = true) ∧
      Acts (l, m)
        (l.script observers listeners a (turn observers listeners l a m).1.live made record)
        (turn observers listeners l a m) := by
  obtain ⟨record, hretired, harrivals⟩ := acts_arrivals observers a.time (nodup_arrivedIds l a) l m
  refine ⟨record, hretired, ?_⟩
  have hdepartures : Acts
      ({ l with live := (afterArrivals observers l a m).1 }, (afterArrivals observers l a m).2)
      ((l.departedIds a).flatMap (departureActs observers a.time made))
      ({ l with live := (afterDepartures observers l a m).1 },
        (afterDepartures observers l a m).2) := by
    refine acts_departures (nodup_departedIds l a)
      { l with live := (afterArrivals observers l a m).1 } _ fun id hid => ?_
    rw [← hmade id (Or.inl hid)]
    exact (registerAll_live_of_mem _ _ ((mem_afterDepartures_iff m).mpr (Or.inr hid))).symm
  have hreturns : Acts
      ({ l with live := (afterDepartures observers l a m).1 }, (afterDepartures observers l a m).2)
      ((l.returningIds a).map fun id => .register ⟨made id, id⟩ a.time)
      ({ l with live := (afterReturns observers l a m).1 }, (afterReturns observers l a m).2) := by
    rw [← returningIds_eq observers l a m]
    refine acts_registerAll ((IdSet.nodup_toList a.teleportEnded).filter a.active.contains)
      { l with live := (afterDepartures observers l a m).1 } _ fun id hid hnew => ?_
    refine hmade id (Or.inr ?_)
    rw [← returningIds_eq observers l a m]
    refine List.mem_filter.mpr ⟨hid, ?_⟩
    rw [Bool.not_eq_true', ← Bool.not_eq_true, Std.ExtTreeMap.contains_iff_mem]
    exact hnew
  have hteleports := acts_tellTeleports observers { l with live := (afterReturns observers l a m).1 } a
    (afterReturns observers l a m).2
  have hvehicles := Acts.foldl_one (l := (turn observers listeners l a m).1)
    (fun (p : String × Handle) m => .pass (m := m) (⟨p.2, p.1⟩ : Vehicle))
    (turn observers listeners l a m).1.live.toList
    (tellTeleports observers a (afterReturns observers l a m).2)
  have hlisteners := Acts.foldl_one (l := (turn observers listeners l a m).1)
    (fun x m => .hear (m := m) x a.time) listeners
    (tellVehicles (turn observers listeners l a m).1.live
      (tellTeleports observers a (afterReturns observers l a m).2))
  exact (((harrivals.append hdepartures).append hreturns).append hteleports).append
    (.act (.settle a.active a.time) (hvehicles.append hlisteners))

/-! ### What is reported -/

/-- The ids of a set are listed in the order of their bytes. -/
theorem sorted_toList (s : IdSet) : s.toList.Pairwise fun x y => Utf8.bytes x < Utf8.bytes y :=
  s.ordered_toList.imp fun h => Utf8.bytes_lt_of_lt (compareOfLessAndEq_eq_lt.mp h)

/-- What events say about a tick, in terms of the listings and of who was active and registered before. -/
structure Reports (l : Lifecycle) (a : TickAnswer) (e : StepEvents) : Prop where
  time : e.time = a.time
  departed : ∀ id, id ∈ e.departed ↔ (id ∈ a.active ∧ id ∉ l.active) ∧ id ∉ a.teleportEnded
  arrived : ∀ id, id ∈ e.arrived ↔ ((id ∈ l.active ∧ id ∉ a.active) ∧ id ∉ a.teleportStarted) ∨
    ((id ∈ a.arrived ∧ id ∈ l.live) ∧ id ∉ a.active)
  teleportStarted : ∀ id, id ∈ e.teleportStarted ↔ id ∈ a.teleportStarted
  teleportEnded : ∀ id, id ∈ e.teleportEnded ↔ id ∈ a.teleportEnded
  /-- Each list is strictly sorted by bytes. -/
  sorted : ∀ ids ∈ [e.departed, e.arrived, e.teleportStarted, e.teleportEnded],
    ids.Pairwise fun x y => Utf8.bytes x < Utf8.bytes y
  nodup : ∀ ids ∈ [e.departed, e.arrived, e.teleportStarted, e.teleportEnded], ids.Nodup
  disjoint : ∀ id ∈ e.departed, id ∉ e.arrived

theorem reports_events (l : Lifecycle) (a : TickAnswer) : l.Reports a (l.events a) where
  time := rfl
  departed id := by
    rw [and_assoc]
    exact mem_departedIds_iff
  arrived id := by
    show id ∈ l.arrivedIds a ↔ _
    rw [mem_arrivedIds_iff]
    tauto
  teleportStarted id := Std.ExtTreeSet.mem_toList
  teleportEnded id := Std.ExtTreeSet.mem_toList
  sorted := by
    simp only [List.forall_mem_cons]
    exact ⟨(sorted_toList _).filter _, sorted_toList (IdSet.ofIds _), sorted_toList _,
      sorted_toList _, List.forall_mem_nil _⟩
  nodup := by
    simp only [List.forall_mem_cons]
    exact ⟨nodup_departedIds l a, nodup_arrivedIds l a, IdSet.nodup_toList _, IdSet.nodup_toList _,
      List.forall_mem_nil _⟩
  disjoint _ hdep := not_mem_arrivedIds_of_active (mem_departedIds_iff.mp hdep).1

/-! ### The theorem -/

section Accepted

variable {σ : Type} [Link σ] {c c₁ : Client σ} {target : Binary64}

/-- A tick that has its answers goes well. -/
theorem advance_of_ask (hask : l.ask target c = .ok a c₁) :
    l.advance target observers listeners c =
      .ok (l.events a, (turn observers listeners l a c₁.memory).1)
        { c₁ with memory := (turn observers listeners l a c₁.memory).2 } := by
  rw [advance, EStateM.bind_of_ok hask]
  rfl

/-- A tick whose reply is accepted, whatever the simulator says in it and whoever is told. (1) What it
says comes out of the reply of the tick's own round trip, and nothing else is remembered of it but answers to
the lifecycle's own queries. (2) The tick succeeds, with these events. (3) Then it does the acts of its script
and no others: arrivals, departures, returns, the notices of teleports, the new active ids and time, and the
news of the step for the vehicles that are registered by then and for the listeners. The new objects are the
ones that are registered in the end, and whoever is told of an arrival sees a retired vehicle. -/
theorem advance_acts (observers : List Observer) (listeners : List Listener)
    (hask : l.ask target c = .ok a c₁) :
    (∃ frame reply link containers, Link.transact frame c.link = .ok reply link ∧
      Response.decode reply = .ok containers ∧ l.tickAnswer? containers = some a ∧
      c.memory.AlikeBeyond l.handle c₁.memory) ∧
    ∃ events l' m', l.advance target observers listeners c = .ok (events, l') { c₁ with memory := m' } ∧
      l.Reports a events ∧
      ∃ made record, l.Made a l'.live made ∧ (∀ id, (record id).retired = true) ∧
        Acts (l, c₁.memory) (l.script observers listeners a l'.live made record) (l', m') := by
  refine ⟨?_, _, _, _, advance_of_ask hask, reports_events l a, ?_⟩
  · obtain ⟨frame, reply, link, containers, htransact, hdecode, hanswer⟩ := ask_eq_ok hask
    exact ⟨frame, reply, link, containers, htransact, hdecode, hanswer,
      ((ask_alike l target c.memory) c (.refl _ _)).1 a c₁ hask⟩
  · obtain ⟨made, hmade⟩ := exists_made observers listeners l a c₁.memory
    obtain ⟨record, hretired, hacts⟩ := acts_turn observers listeners l a c₁.memory hmade
    exact ⟨made, record, hmade, hretired, hacts⟩

/-! Ids of every kind in one tick: "v0" and "v1" arrive, the latter although a teleport takes it; "v2" is
taken, "v3" departs, "v4" comes back and is new to the client, and "v5" comes back without being active. -/

namespace Crowded

def said : Listings where
  time := ⟨1⟩
  active := ["v4", "v3"]
  teleportStarted := ["v2", "v1"]
  teleportEnded := ["v5", "v4"]
  arrived := ["v1"]

def outcome : StepEvents where
  time := ⟨1⟩
  departed := ["v3"]
  arrived := ["v0", "v1"]
  teleportStarted := ["v1", "v2"]
  teleportEnded := ["v4", "v5"]

end Crowded

open Crowded in
theorem crowded_tick_acts :
    ∃ (l : Lifecycle) (a : TickAnswer) (c c₁ : Client Stream), l.ask .zero c = .ok a c₁ ∧
      l.events a = outcome ∧ l.returningIds a = ["v4"] ∧
      ∃ events l' m', l.advance .zero [.logging] [.recorder "steps"] c =
          .ok (events, l') { c₁ with memory := m' } ∧
        l.Reports a events ∧
        ∃ made record, l.Made a l'.live made ∧ (∀ id, (record id).retired = true) ∧
          Acts (l, c₁.memory)
            (l.script [.logging] [.recorder "steps"] a l'.live made record) (l', m') := by
  have hplay : (bootstrap { handle := 0 }).succeedsWith (fun l => (l.ask .zero).succeedsWith
      fun a _ => l.events a == outcome && l.returningIds a == ["v4"])
      ({ link := .awaiting [bootstrapReply { handle := 0 } { active := ["v0", "v1", "v2"] },
        tickReply { handle := 0 } said] } : Client Stream) = true := by
    decide +kernel
  obtain ⟨l, c, -, hplay⟩ := Action.of_succeedsWith hplay
  obtain ⟨a, c₁, hask, htest⟩ := Action.of_succeedsWith hplay
  rw [Bool.and_eq_true, beq_iff_eq, beq_iff_eq] at htest
  exact ⟨l, a, c, c₁, hask, htest.1, htest.2, (advance_acts [.logging] [.recorder "steps"] hask).2⟩

end Accepted

end Lifecycle

end TrafficControl
