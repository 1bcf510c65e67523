import TrafficControl.Proofs.Query.Fetching
import TrafficControl.Proofs.Traffic.FailedTicks
import TrafficControl.Proofs.Traffic.Forgetting
import TrafficControl.Proofs.Traffic.VehicleRepository

/-!
# Vehicles that the simulator lists

The vehicle repository does not make objects. It takes those that the lifecycle has registered, and fails if
the simulator lists a vehicle that has none. This does not happen as long as every vehicle that is listed was
active at the last tick, however it came to be active: whoever is active is registered, and the listing that
the repository works with is never older than the last tick.

* `Memory.NothingNew`: what anyone may do who does not bring the repository a listing of his own.
* `cached_turn_eq_none`: a tick that goes well makes the repository forget its listing.
* `Listening`: runs of ticks and listings, with what the simulator listed when it was asked last.
* `listed_vehicles_found`: what the three ways to ask the repository come to.
-/

namespace TrafficControl

variable {σ : Type}

/-! ### Nothing new at a place -/

/-- Nothing is remembered at a cell that was not remembered there before. -/
def Memory.NothingNew (cell : Cell) (m m' : Memory) : Prop :=
  ∀ v, m'.cells.cached[cell]? = some v → m.cells.cached[cell]? = some v

namespace Memory.NothingNew

variable {cell : Cell} {m m' : Memory}

theorem of_fades (h : m.Fades m') : NothingNew cell m m' := h.cached cell

theorem lasting (cell : Cell) : Memory.Lasting (NothingNew cell) where
  refl _ _ := id
  trans h h' v hv := h v (h' v hv)
  addLog r m := of_fades (.addLog r m)
  addVehicle id time m := of_fades (.addVehicle id time m)
  forgetAll cells m := of_fades (.forgetAll cells m)

theorem retire (v : Vehicle) (m : Memory) : NothingNew cell m (v.retire m) := of_fades (.retire v m)

theorem cached_eq_none (h : NothingNew cell m m') (hm : m.cells.cached[cell]? = none) :
    m'.cells.cached[cell]? = none := by
  rw [Option.eq_none_iff_forall_ne_some]
  intro v hv
  rw [h v hv] at hm
  cases hm

end Memory.NothingNew

/-! ### Single reads -/

namespace ReadQuery

variable {α : Type} [Readable α] {q : ReadQuery} [Link σ] {c : Client σ}

theorem getAs_of_readable {v : Value} {a : α} (hv : q.cached? c.memory.cells = some v)
    (ha : Readable.ofValue v = .ok a) : q.getAs α c = .ok a c := by
  rw [getAs_of_cached α hv, ha]
  rfl

theorem getAs_of_dispatch {v : Value} {a : α} {c' : Client σ} (hnone : q.cached? c.memory.cells = none)
    (hdispatch : Action.dispatch [.read q] c = .ok () c') (hv : q.cached? c'.memory.cells = some v)
    (ha : Readable.ofValue v = .ok a) : q.getAs α c = .ok a c' := by
  have hget : q.get c = .ok v c' := by
    rw [get_of_empty hnone, EStateM.bind_of_ok hdispatch, remembered, hv]
  rw [getAs, EStateM.bind_of_ok hget, ha]
  rfl

theorem getAs_of_dispatch_error {e : ClientError} {c' : Client σ}
    (hnone : q.cached? c.memory.cells = none) (hdispatch : Action.dispatch [.read q] c = .error e c') :
    q.getAs α c = .error e c' := by
  have hget : q.get c = .error e c' := by
    rw [get_of_empty hnone, EStateM.bind_of_error hdispatch]
  rw [getAs, EStateM.bind_of_error hget]

/-- A read whose answer is not remembered asks for it. Either it succeeds, with what it remembers from then on,
or it fails by no fault of the client, and still nothing is remembered. -/
theorem getAs_of_uncached (haccepts : Readable.Accepts α q.type) (hstd : (Query.read q).Standard)
    (hplain : q.needsParameter = false) (hnone : q.cached? c.memory.cells = none) :
    (∃ v a c', q.getAs α c = .ok a c' ∧ q.cached? c'.memory.cells = some v ∧
      Readable.ofValue v = .ok a) ∨
    ∃ e c', q.getAs α c = .error e c' ∧ q.cached? c'.memory.cells = none ∧
      (HonestLink σ → e.isInternal = false) := by
  rcases hdispatch : (Action.dispatch [.read q] : Action σ Unit) c with ⟨_, c'⟩ | ⟨e, c'⟩
  · obtain ⟨_, _, _, _, _, v, -, -, -, hcarries, hmemory⟩ := Action.dispatch_read_eq_ok hdispatch
    obtain ⟨a, ha⟩ := Readable.ofValue_eq_ok haccepts hcarries.type_eq
    have hv : q.cached? c'.memory.cells = some v := by
      rw [hmemory]
      show (c.memory.cells.keep q.cell v).cached[q.cell]? = some v
      rw [Cells.cached_keep, if_pos rfl]
    exact Or.inl ⟨v, a, c', getAs_of_dispatch hnone hdispatch hv ha, hv, ha⟩
  · refine Or.inr ⟨e, c', getAs_of_dispatch_error hnone hdispatch, ?_, fun _ => ?_⟩
    · rw [Action.memory_of_single_error (q := .read q) trivial hdispatch]
      exact hnone
    · refine (Action.dispatch_eq_error (List.forall_mem_singleton.mpr hstd.builtIn)
        hdispatch).isInternal_eq_false (List.forall_mem_singleton.mpr hstd)
        (List.forall_mem_singleton.mpr fun hneeds => ?_)
      rw [hplain] at hneeds
      cases hneeds

end ReadQuery

/-! ### Bringing the repository in line -/

namespace Repository

/-- Where every listed vehicle is registered, an object is found for each. -/
theorem gather_of_registered {live : Registry} (held : Registry) {ids : List String}
    (hlive : ∀ id ∈ ids, id ∈ live) (found : Registry) (c : Client σ) :
    ∃ found', gather (Simulation.vehicleFactory live) held ids found c = .ok found' c := by
  rcases hgather : gather (Simulation.vehicleFactory live) held ids found c with ⟨found', c'⟩ | ⟨e, c'⟩
  · obtain ⟨rfl, -⟩ := gather_eq_ok hgather
    exact ⟨found', rfl⟩
  · obtain ⟨-, id, hid, hmissing⟩ := gather_eq_error hgather
    exact absurd (hlive id hid) hmissing

/-- Finding objects for vehicles does nothing to the client. -/
theorem gather_after (live held : Registry) (ids : List String) (found : Registry) (c : Client σ) :
    (gather (Simulation.vehicleFactory live) held ids found).after c = c := by
  rcases hgather : gather (Simulation.vehicleFactory live) held ids found c with ⟨found', c'⟩ | ⟨e, c'⟩
  · rw [Action.after_of_ok hgather]
    exact (gather_eq_ok hgather).1
  · rw [Action.after_of_error hgather]
    exact (gather_eq_error hgather).1

variable [Link σ] {r : Repository .vehicle} {live : Registry} {c c' : Client σ}

/-- With a listing of registered vehicles the repository comes to hold an object for each of them, and for
nobody else. -/
theorem ids_of_registered {listed : List String}
    (hread : r.idList.getAs (List String) c = .ok listed c') (hlive : ∀ id ∈ listed, id ∈ live) :
    ∃ c'', r.ids (Simulation.vehicleFactory live) c = .ok listed c'' ∧
      ∀ id, id ∈ r.objects c''.memory ↔ id ∈ listed := by
  obtain ⟨found, hgather⟩ := gather_of_registered (r.objects c'.memory) hlive ∅ c'
  obtain ⟨-, hall, hfound⟩ := gather_eq_ok hgather
  refine ⟨_, ids_of_gather hread hgather, fun id => ?_⟩
  have hobjects : r.objects (c'.memory.setHolding r.handle found) = found :=
    Memory.holding_setHolding r.handle found c'.memory
  rw [hobjects]
  refine ⟨fun hmem => ?_, hall id⟩
  by_contra hnot
  obtain ⟨h, hh⟩ := Registry.mem_iff_exists.mp hmem
  rw [hfound id, if_neg hnot, Option.or_none, Std.ExtTreeMap.getElem?_empty] at hh
  cases hh

/-- Nothing is remembered of the listing but what its read has left. -/
theorem cached_ids_after (r : Repository .vehicle) (live : Registry) (c : Client σ) (cell : Cell) :
    ((r.ids (Simulation.vehicleFactory live)).after c).memory.cells.cached[cell]? =
      ((r.idList.getAs (List String)).after c).memory.cells.cached[cell]? := by
  rcases hread : r.idList.getAs (List String) c with ⟨listed, c₁⟩ | ⟨e, c₁⟩
  · rw [Action.after_of_ok hread]
    have hafter := gather_after live (r.objects c₁.memory) listed ∅ c₁
    rcases hgather : gather (Simulation.vehicleFactory live) (r.objects c₁.memory) listed ∅ c₁ with
      ⟨found, c₂⟩ | ⟨e, c₂⟩
    · rw [Action.after_of_ok hgather] at hafter
      rw [Action.after_of_ok (ids_of_gather hread hgather), ← hafter]
      rfl
    · rw [Action.after_of_error hgather] at hafter
      rw [Action.after_of_error (ids_of_gather_error hread hgather), hafter]
  · have hids : r.ids (Simulation.vehicleFactory live) c = .error e c₁ := EStateM.bind_of_error hread
    rw [Action.after_of_error hread, Action.after_of_error hids]

end Repository

/-! ### Ticks and starts -/

namespace Lifecycle

/-- A bootstrap touches no answers but the lifecycle's own. -/
theorem cached_bootstrap [Link σ] {l l' : Lifecycle} {c c' : Client σ} (h : l.bootstrap c = .ok l' c')
    {cell : Cell} (hcell : cell.owner ≠ l.handle) :
    c'.memory.cells.cached[cell]? = c.memory.cells.cached[cell]? := by
  have hstays : ∀ q ∈ l.bootstrapBatch, q.StaysWith l.handle := by
    unfold bootstrapBatch
    simp only [List.forall_mem_cons]
    exact ⟨rfl, rfl, List.forall_mem_nil _⟩
  have hdispatch : (Action.dispatch l.bootstrapBatch : Action σ Unit).Meets
      (c.memory.SameButOwned l.handle) (fun _ => c.memory.SameButOwned l.handle)
      (fun _ => c.memory.SameButOwned l.handle) :=
    Action.dispatch_keeps builtIn_of_mem_bootstrapBatch fun q hq => (hstays q hq).frames c.memory
  rw [bootstrap_eq] at h
  obtain ⟨_, c₁, hdispatched, h⟩ := EStateM.bind_eq_ok_iff.mp h
  obtain ⟨a, c₂, hsurvey, h⟩ := EStateM.bind_eq_ok_iff.mp h
  have hsurveyed : (l.survey : Action σ (Binary64 × IdSet)).Meets (c.memory.SameButOwned l.handle)
      (fun _ => c.memory.SameButOwned l.handle) (fun _ => c.memory.SameButOwned l.handle) :=
    .bind (fetched_keeps _ _) fun _ => .bind (.map _ (fetched_keeps _ _)) fun _ => .pure fun _ hm => hm
  have hbefore := (hdispatch c (.refl _ _)).1 _ _ hdispatched
  have hafter := (hsurveyed c₁ hbefore).1 _ _ hsurvey
  cases h
  have hsame := (Memory.SameQueries.cumulative.registerAll a.1 a.2.toList l.live c₂.memory).cells_eq
  rw [← hafter.cached cell hcell, ← hsame]
  rfl

end Lifecycle

namespace Simulation

variable {s : Simulation}

/-- The place of the listing of vehicles. -/
def listingCell (s : Simulation) : Cell := s.vehicles.idList.cell

/-- A tick makes the vehicle repository forget its listing, unless someone brings it another. -/
theorem cached_turn_eq_none (hchanging : s.vehicles.changing = true)
    (heed : Lifecycle.Heed (Memory.NothingNew s.listingCell) s.observers s.listeners) (l : Lifecycle)
    (a : TickAnswer) (m : Memory) :
    (Lifecycle.turn s.observers s.allListeners l a m).2.cells.cached[s.listingCell]? = none := by
  have lasting := Memory.NothingNew.lasting s.listingCell
  have hall := (lasting.allListeners heed).listener
  obtain ⟨rest, hrest⟩ : ∃ rest, s.allListeners = .repository s.vehicles :: rest := ⟨_, rfl⟩
  rw [Lifecycle.turn_snd, hrest, Listener.tellAll, List.foldl_cons]
  -- the repository comes first and forgets; nobody after it remembers anything new
  refine Memory.NothingNew.cached_eq_none (lasting.foldl (fun x hx m => ?_) _) ?_
  · exact hall x (hrest ▸ List.mem_cons_of_mem _ hx) a.time m
  · show (s.vehicles.nextStep _).cells.cached[s.listingCell]? = none
    rw [Repository.nextStep_eq, if_pos hchanging]
    have hforgotten : ∀ m : Memory,
        (m.mapCells (·.forget s.vehicles.idList.cell)).cells.cached[s.listingCell]? = none := by
      intro m
      show (m.cells.forget s.listingCell).cached[s.listingCell]? = none
      rw [Cells.cached_forget, if_pos rfl]
    split
    · exact Memory.NothingNew.cached_eq_none (lasting.tellEntities _ _) (hforgotten _)
    · exact hforgotten _

variable [Link σ]

/-- Choosing the length of a step touches no answers but the simulation's own. -/
theorem cached_chooseStepLength {given : Option Binary64} {owner : Handle} {length : Binary64}
    {c c' : Client σ} (h : chooseStepLength given owner c = .ok length c') {cell : Cell}
    (hcell : cell.owner ≠ owner) :
    c'.memory.cells.cached[cell]? = c.memory.cells.cached[cell]? := by
  cases given with
  | some given =>
    cases h
    rfl
  | none =>
    have hstays : (Query.read (wholeQuery owner 2 Code.stepLength .double)).StaysWith owner := rfl
    exact ((ReadQuery.getAs_keeps (hstays.frames c.memory) Binary64 c (.refl _ _)).1 _ _ h).cached cell hcell

/-- A simulation that starts with a client who remembers nothing of objects that are not made yet: the listing
of vehicles has its own place, nothing is remembered there, and who is active is registered. -/
theorem start_unlisted {given : Option Binary64} {c c' : Client σ} (blank : c.memory.Blank)
    (h : start given c = .ok s c') :
    s.vehicles.changing = true ∧ s.vehicles.handle ≠ s.lifecycle.handle ∧ s.observers = [] ∧
      s.listeners = [] ∧ (∀ id ∈ s.lifecycle.active, id ∈ s.lifecycle.live) ∧
      c'.memory.cells.cached[s.listingCell]? = none := by
  obtain ⟨length, c₁, l, c₂, hlength, hboot, rfl, rfl⟩ := bootstrapped_of_start h
  -- the lifecycle is made after the repositories
  have hlater : c.memory.nextHandle + 1 < c₁.memory.nextHandle := by
    rw [((chooseStepLength_cellsOnly given _).of_ok hlength).nextHandle_eq]
    exact Nat.add_lt_add_left (by decide : 1 < 5) c.memory.nextHandle
  have hhandle : l.handle = c₁.memory.nextHandle := by
    obtain ⟨time, active, m, -, rfl, -⟩ := Lifecycle.bootstrap_eq_ok hboot
    rfl
  refine ⟨rfl, ?_, rfl, rfl, (Lifecycle.tracked_bootstrap hboot).registered, ?_⟩
  · show c.memory.nextHandle + 1 ≠ l.handle
    rw [hhandle]
    exact Nat.ne_of_lt hlater
  · -- neither the choice of a step length nor the bootstrap reads the listing
    show c₂.memory.cells.cached[(⟨c.memory.nextHandle + 1, 0⟩ : Cell)]? = none
    have hnone : c₁.memory.cells.cached[(⟨c.memory.nextHandle + 1, 0⟩ : Cell)]? = none :=
      (cached_chooseStepLength hlength (Nat.succ_ne_self _)).trans (blank _ (Nat.le_succ _) 0)
    exact (Lifecycle.cached_bootstrap hboot (Nat.ne_of_lt hlater)).trans hnone

/-! ### Runs -/

/-- What the simulator lists when the vehicle repository is brought in line: what it listed before, if that is
remembered, or else what it answers now. -/
def hear (s : Simulation) (c : Client σ) (heard : Option (List String)) : Option (List String) :=
  if (s.vehicles.idList.cached? c.memory.cells).isSome then heard
  else match s.vehicles.idList.getAs (List String) c with
    | .ok ids _ => some ids
    | .error _ _ => none

/-- `Listening heard s c`: a simulation has come to stand at `s` while its client has become `c`, and `heard` is
what the simulator listed for the vehicle repository since the last tick that went well, if it did. The
repository may be asked at any time, and it makes no difference whether that goes well. Observers, listeners and
others do anything to the client's memory but put a listing in the place of the repository's, and the link may
change in any way. -/
inductive Listening : Option (List String) → Simulation → Client σ → Prop
  | started {given : Option Binary64} {s : Simulation} {c c' : Client σ} (blank : c.memory.Blank)
      (h : start given c = .ok s c') : Listening none s c'
  | stepped {heard : Option (List String)} {s s' : Simulation} {c c' : Client σ} {target : Binary64}
      {said : StepEvents} (listening : Listening heard s c)
      (h : s.stepTo target c = .ok (said, s') c') : Listening none s' c'
  | stepFailed {heard : Option (List String)} {s : Simulation} {c c' : Client σ} {target : Binary64}
      {e : ClientError} (listening : Listening heard s c) (h : s.stepTo target c = .error e c') :
      Listening heard s c'
  | asked {heard : Option (List String)} {s : Simulation} {c : Client σ}
      (listening : Listening heard s c) :
      Listening (s.hear c heard) s ((s.vehicles.ids s.findVehicle).after c)
  | observed {heard : Option (List String)} {s : Simulation} {c : Client σ} {o : Observer}
      (listening : Listening heard s c)
      (heed : ∀ notice m, Memory.NothingNew s.listingCell m (o.tell notice m)) :
      Listening heard (s.addObserver o) c
  | listened {heard : Option (List String)} {s : Simulation} {c : Client σ} {x : Listener}
      (listening : Listening heard s c)
      (heed : ∀ time m, Memory.NothingNew s.listingCell m (x.nextStep time m)) :
      Listening heard (s.addListener x) c
  | elsewhere {heard : Option (List String)} {s : Simulation} {c c' : Client σ}
      (listening : Listening heard s c)
      (h : Memory.NothingNew s.listingCell c.memory c'.memory) : Listening heard s c'

namespace Listening

/-- What holds of a simulation at any time: who is active is registered, and a listing that is remembered is the
one that was heard. -/
structure Attentive (heard : Option (List String)) (s : Simulation) (m : Memory) : Prop where
  changing : s.vehicles.changing = true
  apart : s.vehicles.handle ≠ s.lifecycle.handle
  heed : Lifecycle.Heed (Memory.NothingNew s.listingCell) s.observers s.listeners
  registered : ∀ id ∈ s.lifecycle.active, id ∈ s.lifecycle.live
  remembered : ∀ v, s.vehicles.idList.cached? m.cells = some v →
    ∃ ids : List String, Readable.ofValue v = .ok ids ∧ heard = some ids

variable {heard : Option (List String)} {c c' : Client σ} {m m' : Memory}

omit [Link σ] in
theorem Attentive.nothingNew (h : Attentive heard s m) (hm : Memory.NothingNew s.listingCell m m') :
    Attentive heard s m' :=
  ⟨h.changing, h.apart, h.heed, h.registered, fun v hv => h.remembered v (hm v hv)⟩

theorem listing_cases (s : Simulation) (hnone : s.vehicles.idList.cached? c.memory.cells = none) :
    (∃ v ids c', s.vehicles.idList.getAs (List String) c = .ok ids c' ∧
      s.vehicles.idList.cached? c'.memory.cells = some v ∧ Readable.ofValue v = .ok ids) ∨
    ∃ e c', s.vehicles.idList.getAs (List String) c = .error e c' ∧
      s.vehicles.idList.cached? c'.memory.cells = none ∧ (HonestLink σ → e.isInternal = false) :=
  ReadQuery.getAs_of_uncached Readable.accepts_table.2.2.2.1 (standard_idList s.vehicles) rfl hnone

/-- Bringing the repository in line: what it remembers of the listing is what was heard. -/
theorem Attentive.asked (h : Attentive heard s c.memory) :
    Attentive (s.hear c heard) s ((s.vehicles.ids s.findVehicle).after c).memory := by
  refine ⟨h.changing, h.apart, h.heed, h.registered, fun v hv => ?_⟩
  have hafter : s.vehicles.idList.cached?
      ((s.vehicles.idList.getAs (List String)).after c).memory.cells = some v :=
    (Repository.cached_ids_after s.vehicles s.lifecycle.live c _).symm.trans hv
  rcases hcached : s.vehicles.idList.cached? c.memory.cells with _ | w
  · rcases listing_cases s hcached with ⟨w, ids, c', hread, hw, hids⟩ | ⟨e, c', hread, hnone, -⟩
    · rw [Action.after_of_ok hread, hw] at hafter
      cases hafter
      refine ⟨ids, hids, ?_⟩
      rw [hear, hcached, hread]
      rfl
    · rw [Action.after_of_error hread, hnone] at hafter
      cases hafter
  · obtain ⟨ids, hids, hheard⟩ := h.remembered w hcached
    rw [Action.after_of_ok (ReadQuery.getAs_of_readable hcached hids), hcached] at hafter
    cases hafter
    refine ⟨ids, hids, ?_⟩
    rw [hear, hcached]
    exact hheard

theorem attentive (listening : Listening heard s c) : Attentive heard s c.memory := by
  induction listening with
  | started blank h =>
    obtain ⟨hchanging, hapart, hobservers, hlisteners, hregistered, hnone⟩ := start_unlisted blank h
    refine ⟨hchanging, hapart, ?_, hregistered, fun v hv => ?_⟩
    · rw [hobservers, hlisteners]
      exact .nobody _
    · cases hnone.symm.trans hv
  | @stepped heard s s' c c' target said _ h ih =>
    obtain ⟨l', hadvance, rfl⟩ := stepTo_eq_ok h
    obtain ⟨a, c₁, -, -, rfl, hmemory⟩ := Lifecycle.advance_eq_ok hadvance
    refine ⟨ih.changing, ih.apart, ih.heed, fun id hid => ?_, fun v hv => ?_⟩
    · have hlive : id ∈ (Lifecycle.turn s.observers s.allListeners s.lifecycle a c₁.memory).1.live :=
        Lifecycle.active_registered_turn c₁.memory ih.registered hid
      exact hlive
    · rw [hmemory] at hv
      cases (cached_turn_eq_none ih.changing ih.heed _ a c₁.memory).symm.trans hv
  | @stepFailed heard s c c' target e _ h ih =>
    have hframes := (s.failed_step_frames target c (.refl _ _)).2 e c' h
    exact ih.nothingNew fun v hv => (hframes.cached s.listingCell ih.apart).symm.trans hv
  | asked _ ih => exact ih.asked
  | observed _ heed ih =>
    have hall := List.forall_mem_append.mpr ⟨ih.heed.observer, List.forall_mem_singleton.mpr heed⟩
    exact ⟨ih.changing, ih.apart, ⟨hall, ih.heed.listener⟩, ih.registered, ih.remembered⟩
  | listened _ heed ih =>
    have hall := List.forall_mem_append.mpr ⟨ih.heed.listener, List.forall_mem_singleton.mpr heed⟩
    exact ⟨ih.changing, ih.apart, ⟨ih.heed.observer, hall⟩, ih.registered, ih.remembered⟩
  | elsewhere _ h ih => exact ih.nothingNew h

/-- What was heard is what the repository works with; if nothing was heard, it fails by no fault of the
client. -/
theorem Attentive.hear_cases (h : Attentive heard s c.memory) :
    (∃ listing c', s.hear c heard = some listing ∧
      s.vehicles.idList.getAs (List String) c = .ok listing c') ∨
    ∃ e c', s.hear c heard = none ∧ s.vehicles.idList.getAs (List String) c = .error e c' ∧
      (HonestLink σ → e.isInternal = false) := by
  rcases hcached : s.vehicles.idList.cached? c.memory.cells with _ | w
  · rcases listing_cases s hcached with ⟨w, ids, c', hread, -, -⟩ | ⟨e, c', hread, -, hhonest⟩
    · refine Or.inl ⟨ids, c', ?_, hread⟩
      rw [hear, hcached, hread]
      rfl
    · refine Or.inr ⟨e, c', ?_, hread, hhonest⟩
      rw [hear, hcached, hread]
      rfl
  · obtain ⟨ids, hids, hheard⟩ := h.remembered w hcached
    refine Or.inl ⟨ids, c, ?_, ReadQuery.getAs_of_readable hcached hids⟩
    rw [hear, hcached]
    exact hheard

end Listening

/-- At any time of a run the vehicle repository works with what the simulator listed since the last tick. (1) If
that names none but vehicles that were active at that tick, or at the bootstrap if there was none, then all three
ways to ask the repository go well: it gives the listing, an object for an id exactly if the id is listed, and
objects for exactly the listed ids. (2) If the simulator gives no listing, all three fail alike, and by no fault
of the client; so they never say that a vehicle was listed that never departed. -/
theorem listed_vehicles_found [HonestLink σ] {heard : Option (List String)} {c : Client σ}
    (listening : Listening heard s c) :
    (∀ listing, s.hear c heard = some listing → (∀ id ∈ listing, id ∈ s.lifecycle.active) →
      ∃ c', s.vehicles.ids s.findVehicle c = .ok listing c' ∧
        (∀ id, ∃ found, s.vehicles.find? s.findVehicle id c = .ok found c' ∧
          (found.isSome = true ↔ id ∈ listing)) ∧
        ∃ entries, s.vehicles.all s.findVehicle c = .ok entries c' ∧
          ∀ id, (∃ v ∈ entries, v.id = id) ↔ id ∈ listing) ∧
    (s.hear c heard = none → ∃ e c', s.vehicles.ids s.findVehicle c = .error e c' ∧
      (∀ id, s.vehicles.find? s.findVehicle id c = .error e c') ∧
      s.vehicles.all s.findVehicle c = .error e c' ∧
      ∀ id, e ≠ .broken (.neverDeparted id)) := by
  have hattentive := listening.attentive
  constructor
  · intro listing hheard hactive
    rcases hattentive.hear_cases with ⟨ids, c₁, hids, hread⟩ | ⟨e, c₁, hnone, -⟩
    · rw [hids] at hheard
      cases hheard
      obtain ⟨c', hsync, hobjects⟩ := Repository.ids_of_registered hread fun id hid =>
        hattentive.registered id (hactive id hid)
      refine ⟨c', hsync, fun id => ⟨_, Repository.find?_of_ids hsync id, ?_⟩, _,
        Repository.all_of_ids hsync, fun id => ?_⟩
      · rw [Option.isSome_map, ← Std.ExtTreeMap.mem_iff_isSome_getElem?]
        exact hobjects id
      · rw [← hobjects id, Registry.mem_iff_exists]
        constructor
        · rintro ⟨v, hv, rfl⟩
          obtain ⟨⟨x, h⟩, hmem, rfl⟩ := List.mem_map.mp hv
          exact ⟨h, Std.ExtTreeMap.mem_toList_iff_getElem?_eq_some.mp hmem⟩
        · rintro ⟨h, hh⟩
          exact ⟨⟨h, id⟩, List.mem_map.mpr
            ⟨(id, h), Std.ExtTreeMap.mem_toList_iff_getElem?_eq_some.mpr hh, rfl⟩, rfl⟩
    · rw [hnone] at hheard
      cases hheard
  · intro hnone
    rcases hattentive.hear_cases with ⟨ids, c₁, hids, -⟩ | ⟨e, c', -, hread, hhonest⟩
    · rw [hids] at hnone
      cases hnone
    · have hsync : s.vehicles.ids s.findVehicle c = .error e c' := EStateM.bind_of_error hread
      obtain ⟨hfind, hall⟩ := Repository.of_ids_error hsync
      refine ⟨e, c', hsync, hfind, hall, ?_⟩
      rintro id rfl
      cases hhonest inferInstance

/-- "v1" is away when the client comes and returns at the first tick, at which "v2" departs. The repository,
which has been asked before, then finds both. -/
theorem returned_vehicle_found :
    ∃ s, ∃ c c' : Client Stream, Listening none s c ∧ s.hear c none = some ["v2", "v1", "v0"] ∧
      s.vehicles.ids s.findVehicle c = .ok ["v2", "v1", "v0"] c' ∧
      ∀ id ∈ ["v2", "v1", "v0"], ∃ v, s.vehicles.find? s.findVehicle id c = .ok (some v) c' := by
  have hplay : (start (some .zero)).succeedsWith (fun s c =>
      (s.stepTo .zero).succeedsWith (fun r c => r.2.hear c none == some ["v2", "v1", "v0"] &&
        ["v2", "v1", "v0"].all r.2.lifecycle.active.contains)
        ((s.vehicles.ids s.findVehicle).after c))
      ({ link := .awaiting [Lifecycle.bootstrapReply { handle := 0 } { active := ["v0"] },
        [(Repository.idList (k := .vehicle) ⟨0, "", true, false⟩).container (.textList ["v0"])],
        Lifecycle.tickReply { handle := 0 } { active := ["v0", "v1", "v2"], teleportEnded := ["v1"] },
        [(Repository.idList (k := .vehicle) ⟨0, "", true, false⟩).container
          (.textList ["v2", "v1", "v0"])]] } : Client Stream) = true := by
    decide +kernel
  obtain ⟨s₀, c₀, hstart, hplay⟩ := Action.of_succeedsWith hplay
  obtain ⟨⟨said, s⟩, c, hstep, htest⟩ := Action.of_succeedsWith hplay
  obtain ⟨hheard, hactive⟩ := Bool.and_eq_true_iff.mp htest
  have blank : ({} : Memory).Blank := fun _ _ _ => Std.ExtTreeMap.getElem?_empty
  have listening : Listening none s c := (Listening.started blank hstart).asked.stepped hstep
  obtain ⟨c', hids, hfind, -⟩ := (listed_vehicles_found listening).1 _ (beq_iff_eq.mp hheard)
    fun id hid => Std.ExtTreeSet.contains_iff_mem.mp (List.all_eq_true.mp hactive id hid)
  refine ⟨s, c, c', listening, beq_iff_eq.mp hheard, hids, fun id hid => ?_⟩
  obtain ⟨found, hfound, hsome⟩ := hfind id
  obtain ⟨v, rfl⟩ := Option.isSome_iff_exists.mp (hsome.mpr hid)
  exact ⟨v, hfound⟩

end Simulation

end TrafficControl
