import TrafficControl.Proofs.Traffic.Operations

/-!
# Simulations that can come about

A simulation is started, takes steps and lists what there is. Whatever else is done with the client
meanwhile may use any queries and make any objects, as long as the repositories of the simulation are
left alone; so may whoever is told about a step. Whether calls succeed does not matter.

Throughout, every object of the simulation is there for one thing only: there are roles that map out
the simulation.

* `Lifecycle.ask_frames`: what the answers to a step touch.
* `Simulation.Reachable`, `Reachable.standing`: simulations that can come about, and what holds of them.
-/

namespace TrafficControl

variable {σ : Type} {Γ : Roles} {s : Simulation} {before m m' : Memory}

/-! ### Objects in their places -/

/-- Reads of an object that was made leave the objects in their places. -/
theorem Memory.SameButOwned.proceeds {owner : Handle} (h : before.SameButOwned owner m)
    (hmade : owner < before.nextHandle) : before.Proceeds m where
  nextHandle_le := Nat.le_of_eq h.same.nextHandle_eq.symm
  holdings := .of_sameButCells h.same
  blank hblank x hx place := by
    rw [h.same.nextHandle_eq] at hx
    rw [h.cached ⟨x, place⟩ (Nat.ne_of_gt (Nat.lt_of_lt_of_le hmade hx))]
    exact hblank x hx place

/-- What is done leaves the repositories of the simulation alone. Queries may be used and objects made,
and still nothing is remembered of objects that are not made yet. -/
structure Simulation.Spares (s : Simulation) (m m' : Memory) : Prop where
  nextHandle_le : m.nextHandle ≤ m'.nextHandle
  objects : ∀ k, (s.repository k).objects m' = (s.repository k).objects m
  blank : m.Blank → m'.Blank

theorem Memory.Proceeds.spares (h : before.Proceeds m) (s : Simulation) : s.Spares before m :=
  ⟨h.nextHandle_le, fun _ => h.holdings.holding_eq _, h.blank⟩

theorem Roles.Maps.of_spares (h : Γ.Maps s before) (hm : s.Spares before m) : Γ.Maps s m where
  placed := ⟨fun x r hx => Nat.lt_of_lt_of_le (h.placed.bound x r hx) hm.nextHandle_le,
    hm.blank h.placed.blank⟩
  covers := {
    simulation := h.covers.simulation
    lifecycle := h.covers.lifecycle
    repository := h.covers.repository
    live := h.covers.live
    held := fun k => by
      rw [hm.objects]
      exact h.covers.held k }

/-- Some roles map out the simulation. -/
def Simulation.Mapped (s : Simulation) (m : Memory) : Prop := ∃ Γ : Roles, Γ.Maps s m

/-! ### What is asked for -/

variable [Link σ]

namespace Lifecycle

variable {l : Lifecycle}

theorem staysWith_of_mem_tickBatch : ∀ q ∈ l.tickBatch, q.StaysWith l.handle := by
  unfold tickBatch
  simp only [List.forall_mem_cons]
  exact ⟨trivial, rfl, rfl, rfl, rfl, rfl, List.forall_mem_nil _⟩

omit [Link σ] in
theorem fetched_keeps {J : Memory → Prop} (α : Type) [Readable α] (q : ReadQuery) :
    (fetched α q : Action σ α).Meets J (fun _ => J) (fun _ => J) := by
  refine .bind .memory fun m => ?_
  split
  · exact .ofExcept (fun _ _ _ hm => hm.2) fun _ _ _ hm => hm.2
  · exact .throw fun _ hm => hm.2

/-- What the time that is set and the answers of the batch keep, the first half of a step keeps, however
it ends. -/
theorem ask_keeps {J : Memory → Prop} {target : Binary64}
    (hset : ∀ m, J m → J (m.mapCells (·.setTarget l.stepCell target)))
    (hkeeps : ∀ q ∈ l.tickBatch, q.Keeps J) :
    (l.ask target : Action σ TickAnswer).Meets J (fun _ => J) (fun _ => J) := by
  have hdispatch : (Action.dispatch l.tickBatch : Action σ Unit).Meets J (fun _ => J) (fun _ => J) :=
    Action.dispatch_keeps (fun q hq => (standard_of_mem_tickBatch q hq).builtIn) hkeeps
  refine .bind (Q := fun _ => J) (.update hset) fun _ => ?_
  exact .bind hdispatch fun _ => .bind (fetched_keeps _ _) fun _ => .bind (.map _ (fetched_keeps _ _))
    fun _ => .bind (.map _ (fetched_keeps _ _)) fun _ => .bind (.map _ (fetched_keeps _ _)) fun _ =>
    .bind (fetched_keeps _ _) fun _ => .pure fun _ hm => hm

/-- The first half of a step touches nothing but what the lifecycle remembers of its own reads. -/
theorem ask_frames (target : Binary64) :
    (l.ask target : Action σ TickAnswer).Meets (before.SameButOwned l.handle)
      (fun _ => before.SameButOwned l.handle) (fun _ => before.SameButOwned l.handle) := by
  apply ask_keeps
  · exact fun m hm => ⟨hm.same.trans (.mapCells _ m), hm.cached, hm.parameters, hm.versions⟩
  · exact fun q hq => (staysWith_of_mem_tickBatch q hq).frames before

end Lifecycle

namespace Simulation

/-- Listing what there is leaves a simulation that roles map out. -/
theorem ids_mapped (s : Simulation) (k : Kind) :
    ((s.repository k).ids (s.factory k) : Action σ (List String)).Meets s.Mapped (fun _ => s.Mapped)
      (fun _ => s.Mapped) := by
  refine .elim fun Γ => ?_
  have hread : ((s.repository k).idList.getAs (List String) : Action σ (List String)).Meets (Γ.Maps s)
      (fun _ => Γ.Maps s) (fun _ => Γ.Maps s) := by
    refine .named fun before hmaps => ?_
    have hframes : (Query.read (s.repository k).idList).StaysWith (s.repository k).handle := rfl
    have hafter : ∀ m, before.SameButOwned (s.repository k).handle m → Γ.Maps s m := fun m hm =>
      hmaps.of_spares ((hm.proceeds (hmaps.placed.bound _ _ (hmaps.covers.repository k))).spares s)
    refine (ReadQuery.getAs_keeps (hframes.frames before) _).mono ?_ (fun _ => hafter) fun _ => hafter
    rintro m rfl
    exact .refl _ m
  refine .bind (hread.mono (fun _ => id) (fun _ _ => id) fun _ _ hm => ⟨Γ, hm⟩) fun listed =>
    .bind .memory fun held => .named ?_
  rintro before ⟨rfl, hmaps⟩
  have hgather : (Repository.gather (s.factory k) ((s.repository k).objects held) listed ∅ :
      Action σ Registry).Meets (Γ.Grown Memory.Fades held k ∅)
      (fun objects m => Γ.Grown Memory.Fades held k objects m) (Γ.Baffled held k) :=
    Repository.gather_meets hmaps.covers.live (hmaps.covers.held k) listed ∅
  refine .bind (hgather.mono ?_ (fun _ _ => id) ?_) fun objects =>
    .bind (Q := fun _ => s.Mapped) (.update ?_) fun _ => .pure fun _ => id
  · rintro m rfl
    exact .start Memory.Fades.steady hmaps.placed (.empty Γ k)
  · rintro e m ⟨-, objects, hgrown⟩
    exact ⟨Γ, hmaps.of_spares (hgrown.passes.proceeds.spares s)⟩
  · intro m hm
    obtain ⟨Γ', -, hplaced, hcovers⟩ := hm.setHolding Memory.Fades.steady hmaps.covers
    exact ⟨Γ', ⟨hplaced.bound, hplaced.blank⟩, hcovers⟩

/-! ### Simulations that can come about -/

/-- A simulation may come to stand at `s` while its client has become `c`. -/
inductive Reachable : Simulation → Client σ → Prop
  | started {given : Option Binary64} {s : Simulation} {c c' : Client σ} (blank : c.memory.Blank)
      (tidy : c.memory.Tidy) (h : start given c = .ok s c') : Reachable s c'
  | stepped {s s' : Simulation} {c c' : Client σ} {target : Binary64} {said : StepEvents}
      (reachable : Reachable s c) (h : s.stepTo target c = .ok (said, s') c') : Reachable s' c'
  | stepFailed {s : Simulation} {c c' : Client σ} {target : Binary64} {e : ClientError}
      (reachable : Reachable s c) (h : s.stepTo target c = .error e c') : Reachable s c'
  | listed {s : Simulation} {c c' : Client σ} {k : Kind} {ids : List String}
      (reachable : Reachable s c) (h : (s.repository k).ids (s.factory k) c = .ok ids c') :
      Reachable s c'
  | listFailed {s : Simulation} {c c' : Client σ} {k : Kind} {e : ClientError}
      (reachable : Reachable s c) (h : (s.repository k).ids (s.factory k) c = .error e c') :
      Reachable s c'
  | observed {s : Simulation} {c : Client σ} {o : Observer} (reachable : Reachable s c)
      (heed : ∀ notice (m : Memory), m.Proceeds (o.tell notice m)) : Reachable (s.addObserver o) c
  | listened {s : Simulation} {c : Client σ} {x : Listener} (reachable : Reachable s c)
      (heed : ∀ time (m : Memory), m.Proceeds (x.nextStep time m)) : Reachable (s.addListener x) c
  /-- Anything else that is done with the client. The link may change in any way. -/
  | elsewhere {s : Simulation} {c c' : Client σ} (reachable : Reachable s c)
      (h : s.Spares c.memory c'.memory) : Reachable s c'

/-- A batch of built-in queries is among what may be done elsewhere, whatever comes of it, if what it
reads belongs to objects that were made. -/
theorem Reachable.dispatch {c : Client σ} (h : s.Reachable c) {queries : List Query}
    (hlib : ∀ q ∈ queries, q.BuiltIn)
    (hmade : ∀ r, Query.read r ∈ queries → r.cell.owner < c.memory.nextHandle) :
    s.Reachable ((Action.dispatch queries).after c) := by
  have hkeeps : ∀ q ∈ queries, q.Keeps c.memory.Proceeds := by
    intro q hq container e heffect m hm
    refine hm.trans ?_
    rcases Query.effect_cases heffect with ⟨r, v, rfl, rfl, -⟩ | hfades
    · have hstays : (Query.read r).StaysWith r.cell.owner := rfl
      have hframes := hstays.frames m container _ heffect m (.refl _ m)
      exact hframes.proceeds (Nat.lt_of_lt_of_le (hmade r hq) hm.nextHandle_le)
    · exact (hfades m).proceeds
  have hproceeds := (Action.dispatch_keeps hlib hkeeps).after (Memory.Proceeds.steady.refl c.memory)
  exact h.elsewhere (hproceeds.spares s)

/-- What holds of a simulation at any time. -/
structure Standing (s : Simulation) (m : Memory) : Prop where
  wired : s.Wired
  heed : Lifecycle.Heed Memory.Proceeds s.observers s.listeners
  mapped : s.Mapped m

/-- What has the roles of a simulation after the first half of a step. -/
theorem maps_of_ask (h : Γ.Maps s before) (hframes : before.SameButOwned s.lifecycle.handle m) :
    Γ.Maps s m :=
  h.of_spares ((hframes.proceeds (h.placed.bound _ _ h.covers.lifecycle)).spares s)

theorem failed_step_frames (s : Simulation) (target : Binary64) :
    (s.stepTo target : Action σ (StepEvents × Simulation)).Meets
      (before.SameButOwned s.lifecycle.handle) (fun _ _ => True)
      (fun _ => before.SameButOwned s.lifecycle.handle) := by
  have hadvance : (s.lifecycle.advance target s.observers s.allListeners :
      Action σ (StepEvents × Lifecycle)).Meets (before.SameButOwned s.lifecycle.handle)
      (fun _ _ => True) (fun _ => before.SameButOwned s.lifecycle.handle) :=
    .bind (Lifecycle.ask_frames target) fun _ => .bind (Q := fun _ _ => True)
      (.modifyMemory fun _ _ => trivial) fun _ => .pure fun _ _ => trivial
  exact .bind hadvance fun _ => .pure fun _ _ => trivial

theorem Reachable.standing {c : Client σ} (h : s.Reachable c) : s.Standing c.memory := by
  induction h with
  | started blank tidy h =>
    obtain ⟨Γ, hsuits⟩ := (start_meets _ _ ⟨blank, tidy⟩).1 _ _ h
    obtain ⟨hobservers, hlisteners, hwired, -⟩ := start_eq_ok tidy h
    refine ⟨hwired, ?_, Γ, hsuits.maps⟩
    rw [hobservers, hlisteners]
    exact .nobody _
  | @stepped s s' c c' target said _ h ih =>
    obtain ⟨hwired, heed, Γ, hmaps⟩ := ih
    obtain ⟨l', hadvance, rfl⟩ := stepTo_eq_ok h
    obtain ⟨a, c₁, hask, rfl, rfl, hmemory⟩ := Lifecycle.advance_eq_ok hadvance
    have hframes := ((Lifecycle.ask_frames target) c (.refl _ _)).1 a c₁ hask
    obtain ⟨-, Γ', -, hmaps'⟩ := (maps_of_ask hmaps hframes).turn Memory.Proceeds.steady heed a
    exact ⟨hwired.among _ _ _, heed, Γ', hmemory ▸ hmaps'⟩
  | @stepFailed s c c' target e _ h ih =>
    obtain ⟨hwired, heed, Γ, hmaps⟩ := ih
    exact ⟨hwired, heed, Γ, maps_of_ask hmaps ((s.failed_step_frames target c (.refl _ _)).2 e c' h)⟩
  | @listed s c c' k ids _ h ih =>
    exact ⟨ih.wired, ih.heed, ((s.ids_mapped k) c ih.mapped).1 ids c' h⟩
  | @listFailed s c c' k e _ h ih =>
    exact ⟨ih.wired, ih.heed, ((s.ids_mapped k) c ih.mapped).2 e c' h⟩
  | @observed s c o _ heed ih =>
    obtain ⟨hwired, hheed, Γ, hmaps⟩ := ih
    have hall := List.forall_mem_append.mpr ⟨hheed.observer, List.forall_mem_singleton.mpr heed⟩
    exact ⟨hwired.among _ _ _, ⟨hall, hheed.listener⟩, Γ, hmaps.placed, hmaps.covers.attended _ _⟩
  | @listened s c x _ heed ih =>
    obtain ⟨hwired, hheed, Γ, hmaps⟩ := ih
    have hall := List.forall_mem_append.mpr ⟨hheed.listener, List.forall_mem_singleton.mpr heed⟩
    exact ⟨hwired.among _ _ _, ⟨hheed.observer, hall⟩, Γ, hmaps.placed, hmaps.covers.attended _ _⟩
  | elsewhere _ h ih =>
    obtain ⟨hwired, heed, Γ, hmaps⟩ := ih
    exact ⟨hwired, heed, Γ, hmaps.of_spares h⟩

end Simulation

end TrafficControl
