import TrafficControl.Proofs.Query.Alike
import TrafficControl.Proofs.Traffic.Reachable
import TrafficControl.Proofs.Traffic.Told

/-!
# Ticks that fail

A tick that fails leaves the vehicles, the clock and everyone who listens alone. All that may have
changed is what the lifecycle remembers of its own reads, since the answers in front of a bad one are
kept. Nobody ever looks at these: a tick works with nothing but the answers of its own reply.

Runs tell it best. A `Deed` is a call, or anything else that is done to the client's memory; if the calls
that fail are left out of a run, the lifecycle ends up the same, and the ticks that are left report the
same.

* `ask_agree`, `turn_alike`: the two halves of a tick.
* `failed_calls_leave_no_trace`: what a call that fails leaves, and what it means for later ones.
-/

namespace TrafficControl

variable {σ : Type} {owner : Handle}

/-! ### What a tick does, without a look at the answers of an object -/

namespace Memory

/-- What is done one after another does not look if no part of it does. -/
theorem Blind.foldl {α : Type} {f : Memory → α → Memory} {items : List α}
    (h : ∀ a ∈ items, Memory.Blind owner fun m => f m a) :
    Memory.Blind owner fun m => items.foldl f m := by
  intro m m' halike
  exact List.foldl_rel halike fun a ha _ _ => h a ha _ _

theorem AlikeBeyond.vehicle_eq {m m' : Memory} (h : m.AlikeBeyond owner m') (v : Handle) :
    m.vehicle v = m'.vehicle v := (h.same.vehicle_eq v).symm

theorem Blind.retire (owner : Handle) (v : Vehicle) : Memory.Blind owner v.retire := by
  intro m m' h
  unfold Vehicle.retire
  rw [← h.vehicle_eq]
  exact Blind.forgetAll owner _ _ _ (Blind.setVehicle owner _ _ _ _ h)

theorem Blind.addVehicle (owner : Handle) (id : String) (time : Binary64) :
    Memory.Blind owner fun m => (m.addVehicle id time).2 := of_rest fun _ _ => rfl

end Memory

namespace Lifecycle

/-- Observers and listeners do not look at the answers of an object. -/
structure Unaware (owner : Handle) (observers : List Observer) (listeners : List Listener) : Prop where
  observer : ∀ o ∈ observers, ∀ notice, Memory.Blind owner (o.tell notice)
  listener : ∀ x ∈ listeners, ∀ time, Memory.Blind owner (x.nextStep time)

/-- The same vehicles are registered, and the memories are alike beyond the object. -/
def SameLive (owner : Handle) (s s' : Registry × Memory) : Prop :=
  s.1 = s'.1 ∧ s.2.AlikeBeyond owner s'.2

variable {observers : List Observer} {listeners : List Listener} {s s' : Registry × Memory}
  {m m' : Memory}

theorem SameLive.registerNew (time : Binary64) (id : String) (h : SameLive owner s s') :
    SameLive owner (Lifecycle.registerNew time s id) (Lifecycle.registerNew time s' id) := by
  obtain ⟨live, m⟩ := s
  obtain ⟨live', m'⟩ := s'
  obtain ⟨rfl, halike⟩ := h
  by_cases hmem : id ∈ live
  · rw [registerNew_of_mem hmem, registerNew_of_mem hmem]
    exact ⟨rfl, halike⟩
  · rw [registerNew_of_not_mem hmem, registerNew_of_not_mem hmem]
    dsimp only
    rw [halike.same.nextHandle_eq]
    exact ⟨rfl, Memory.Blind.addVehicle owner id time _ _ halike⟩

theorem SameLive.registerAll (time : Binary64) (ids : List String) (live : Registry)
    (h : m.AlikeBeyond owner m') :
    SameLive owner (Lifecycle.registerAll time ids live m) (Lifecycle.registerAll time ids live m') :=
  List.foldl_rel (r := SameLive owner) ⟨rfl, h⟩ fun id _ _ _ hs => hs.registerNew time id

section

variable (hunaware : Unaware owner observers listeners)

include hunaware

theorem Unaware.tellAll (notice : Notice) : Memory.Blind owner (Observer.tellAll observers notice) :=
  Memory.Blind.foldl fun o ho => hunaware.observer o ho notice

theorem SameLive.arrive (time : Binary64) (id : String) (h : SameLive owner s s') :
    SameLive owner (Lifecycle.arrive observers time s id) (Lifecycle.arrive observers time s' id) := by
  obtain ⟨live, m⟩ := s
  obtain ⟨live', m'⟩ := s'
  obtain ⟨rfl, halike⟩ := h
  unfold Lifecycle.arrive
  dsimp only
  split
  · next v hv =>
    have hretired := Memory.Blind.retire owner ⟨v, id⟩ _ _ halike
    refine ⟨rfl, ?_⟩
    dsimp only
    unfold Vehicle.sighting
    rw [← hretired.vehicle_eq]
    exact hunaware.tellAll _ _ _ hretired
  · exact ⟨rfl, Memory.Blind.addLog owner _ _ _ halike⟩

theorem SameLive.depart (time : Binary64) (id : String) (h : SameLive owner s s') :
    SameLive owner (Lifecycle.depart observers time s id) (Lifecycle.depart observers time s' id) := by
  obtain ⟨live, m⟩ := s
  obtain ⟨live', m'⟩ := s'
  obtain ⟨rfl, halike⟩ := h
  have hadded := Memory.Blind.addVehicle owner id time _ _ halike
  have hhandle : (m.addVehicle id time).1 = (m'.addVehicle id time).1 := by
    show (⟨m.nextHandle, id⟩ : Vehicle) = ⟨m'.nextHandle, id⟩
    rw [halike.same.nextHandle_eq]
  unfold Lifecycle.depart
  dsimp only
  unfold Vehicle.sighting
  rw [← hhandle, ← hadded.vehicle_eq]
  exact ⟨rfl, hunaware.tellAll _ _ _ hadded⟩

/-- What a tick does with its answers is the same for memories that are alike. -/
theorem turn_alike (l : Lifecycle) (a : TickAnswer) (h : m.AlikeBeyond owner m') :
    (turn observers listeners l a m).1 = (turn observers listeners l a m').1 ∧
      (turn observers listeners l a m).2.AlikeBeyond owner (turn observers listeners l a m').2 := by
  have harrivals : SameLive owner (afterArrivals observers l a m) (afterArrivals observers l a m') :=
    List.foldl_rel (r := SameLive owner) ⟨rfl, h⟩ fun id _ _ _ hs => hs.arrive hunaware a.time id
  have hdepartures : SameLive owner (afterDepartures observers l a m)
      (afterDepartures observers l a m') :=
    List.foldl_rel (r := SameLive owner) harrivals fun id _ _ _ hs => hs.depart hunaware a.time id
  have hreturns : SameLive owner (afterReturns observers l a m) (afterReturns observers l a m') := by
    unfold afterReturns
    rw [hdepartures.1]
    exact SameLive.registerAll a.time _ _ hdepartures.2
  have hteleports : Memory.Blind owner (tellTeleports observers a) := by
    intro m₁ m₁' h₁
    exact Memory.Blind.foldl (fun _ _ => hunaware.tellAll _) _ _
      (Memory.Blind.foldl (fun _ _ => hunaware.tellAll _) _ _ h₁)
  rw [turn_fst, turn_fst, turn_snd, turn_snd, hreturns.1]
  refine ⟨rfl, ?_⟩
  exact Memory.Blind.foldl (fun x hx => hunaware.listener x hx a.time) _ _
    (Memory.Blind.foldl (fun _ _ => Memory.Blind.forgetAll owner _) _ _ (hteleports _ _ hreturns.2))

end

/-! ### What a tick asks -/

section Asking

variable [Link σ] {l : Lifecycle} {c c' : Client σ} {target : Binary64}

theorem ownedBy_of_mem_tickBatch : ∀ q ∈ l.tickBatch, q.OwnedBy l.handle := by
  unfold tickBatch
  simp only [List.forall_mem_cons]
  exact ⟨rfl, rfl, rfl, rfl, rfl, rfl, List.forall_mem_nil _⟩

theorem ownedBy_of_mem_bootstrapBatch : ∀ q ∈ l.bootstrapBatch, q.OwnedBy l.handle := by
  unfold bootstrapBatch
  simp only [List.forall_mem_cons]
  exact ⟨rfl, rfl, List.forall_mem_nil _⟩

theorem builtIn_of_mem_tickBatch : ∀ q ∈ l.tickBatch, q.BuiltIn :=
  fun q hq => (standard_of_mem_tickBatch q hq).builtIn

theorem builtIn_of_mem_bootstrapBatch : ∀ q ∈ l.bootstrapBatch, q.BuiltIn := by
  unfold bootstrapBatch
  simp only [List.forall_mem_cons]
  exact ⟨trivial, trivial, List.forall_mem_nil _⟩

/-- Getting the answers of a tick does not matter beyond the lifecycle, however it ends. -/
theorem ask_alike (l : Lifecycle) (target : Binary64) (before : Memory) :
    (l.ask target : Action σ TickAnswer).Meets (before.AlikeBeyond l.handle)
      (fun _ => before.AlikeBeyond l.handle) (fun _ => before.AlikeBeyond l.handle) := by
  apply ask_keeps
  · exact fun m hm => hm.trans ⟨.mapCells _ m, .of_setTarget m.cells 0 target⟩
  · exact fun q hq => (ownedBy_of_mem_tickBatch q hq).keeps before

/-- The answers of a tick are the same for clients whose memories are alike. -/
theorem ask_agree (target : Binary64) (hlink : c.link = c'.link)
    (hmemory : c.memory.AlikeBeyond l.handle c'.memory) :
    AgreeBeyond l.handle (l.ask target c) (l.ask target c') := by
  have hset := hmemory.cells.setTarget l.stepCell target
  have htargets : ∀ cell, Query.step cell ∈ l.tickBatch →
      (c.memory.cells.setTarget l.stepCell target).target cell =
        (c'.memory.cells.setTarget l.stepCell target).target cell := by
    intro cell hcell
    obtain rfl : cell = l.stepCell := by simpa [tickBatch] using hcell
    unfold Cells.target Cells.setTarget
    rw [Std.ExtTreeMap.getD_insert_self, Std.ExtTreeMap.getD_insert_self]
  have hasks : batchRequests (c.memory.cells.setTarget l.stepCell target) l.tickBatch =
      batchRequests (c'.memory.cells.setTarget l.stepCell target) l.tickBatch :=
    batchRequests_congr fun q hq => Query.requests_congr hset.parameters hset.changes
      fun cell hcell => htargets cell (hcell ▸ hq)
  have hlook : ∀ containers effects, Takes l.tickBatch containers effects →
      ∃ a, ∀ (c : Client σ) (cells : Cells),
        c.memory.cells = Effect.applyAll effects cells → l.collect c = .ok a c := by
    intro containers effects htakes
    obtain ⟨a, -, ha⟩ := collect_of_takes (σ := σ) htakes
    exact ⟨a, ha⟩
  set c₁ : Client σ := { c with memory := c.memory.mapCells (·.setTarget l.stepCell target) }
  set c₁' : Client σ := { c' with memory := c'.memory.mapCells (·.setTarget l.stepCell target) }
  have hlink₁ : c₁.link = c₁'.link := hlink
  have hmemory₁ : c₁.memory.AlikeBeyond l.handle c₁'.memory :=
    hmemory.mapCells (f := (·.setTarget l.stepCell target)) hset
  have hagree := AgreeBeyond.dispatch_then hlink₁ hmemory₁ builtIn_of_mem_tickBatch hasks hlook
  exact hagree

/-- A tick that gets its answers gets them from its own reply. -/
theorem ask_eq_ok {a : TickAnswer} (h : l.ask target c = .ok a c') :
    ∃ frame reply link containers, Link.transact frame c.link = .ok reply link ∧
      Response.decode reply = .ok containers ∧ l.tickAnswer? containers = some a := by
  rw [ask_eq] at h
  obtain ⟨_, c₁, htarget, h⟩ := EStateM.bind_eq_ok_iff.mp h
  cases htarget
  obtain ⟨_, c₂, hdispatch, hcollect⟩ := EStateM.bind_eq_ok_iff.mp h
  obtain ⟨-, frame, reply, link, containers, effects, -, htransact, hdecode, htakes, hmemory⟩ :=
    Action.dispatch_eq_ok_of_reply builtIn_of_mem_tickBatch (List.cons_ne_nil _ _) hdispatch
  obtain ⟨a', hanswer, hfound⟩ := collect_of_takes (σ := σ) htakes
  rw [hfound c₂ _ (congrArg Memory.cells hmemory)] at hcollect
  cases hcollect
  exact ⟨frame, reply, link, containers, htransact, hdecode, hanswer⟩

/-! ### What a bootstrap asks -/

/-- A bootstrap that fails does not matter beyond the lifecycle. -/
theorem bootstrap_eq_error {e : ClientError} (h : l.bootstrap c = .error e c') :
    c.memory.AlikeBeyond l.handle c'.memory := by
  have hdispatch : (Action.dispatch l.bootstrapBatch : Action σ Unit).Meets
      (c.memory.AlikeBeyond l.handle) (fun _ => c.memory.AlikeBeyond l.handle)
      (fun _ => c.memory.AlikeBeyond l.handle) :=
    Action.dispatch_keeps builtIn_of_mem_bootstrapBatch fun q hq =>
      (ownedBy_of_mem_bootstrapBatch q hq).keeps c.memory
  have hmeets : (l.bootstrap : Action σ Lifecycle).Meets (c.memory.AlikeBeyond l.handle)
      (fun _ _ => True) (fun _ => c.memory.AlikeBeyond l.handle) := by
    rw [bootstrap_eq]
    refine .bind hdispatch fun _ => .bind (Q := fun _ => c.memory.AlikeBeyond l.handle) ?_ fun _ =>
      .modifyMemory fun _ _ => trivial
    exact .bind (fetched_keeps _ _) fun _ => .bind (.map _ (fetched_keeps _ _)) fun _ =>
      .pure fun _ hm => hm
  exact (hmeets c (.refl _ _)).2 e c' h

/-- Bootstraps of clients whose memories are alike agree. -/
theorem bootstrap_agree (hlink : c.link = c'.link)
    (hmemory : c.memory.AlikeBeyond l.handle c'.memory) :
    AgreeBeyond l.handle (l.bootstrap c) (l.bootstrap c') := by
  have hasks : batchRequests c.memory.cells l.bootstrapBatch =
      batchRequests c'.memory.cells l.bootstrapBatch := by
    refine batchRequests_congr fun q hq => Query.requests_congr hmemory.cells.parameters
      hmemory.cells.changes fun cell hcell => ?_
    subst hcell
    simp [bootstrapBatch] at hq
  have hlook : ∀ containers effects, Takes l.bootstrapBatch containers effects →
      ∃ a, ∀ (c : Client σ) (cells : Cells),
        c.memory.cells = Effect.applyAll effects cells → l.survey c = .ok a c := by
    intro containers effects htakes
    obtain ⟨a, -, ha⟩ := survey_of_takes (σ := σ) htakes
    exact ⟨a, ha⟩
  have hagree := AgreeBeyond.dispatch_then hlink hmemory builtIn_of_mem_bootstrapBatch hasks hlook
  have hsplit : (l.bootstrap : Action σ Lifecycle) = (do
      let a ← (do Action.dispatch l.bootstrapBatch; l.survey)
      Action.modifyMemory (l.takeOver a.1 a.2)) := by
    rw [bootstrap_eq, bind_assoc]
  rw [hsplit]
  refine hagree.bind fun a c₁ c₁' hlink₁ hmemory₁ => ?_
  have hlive := SameLive.registerAll a.1 a.2.toList l.live hmemory₁
  refine .modifyMemory hlink₁ ?_ (Memory.Blind.addLog l.handle _ _ _ hlive.2)
  unfold takeOver
  dsimp only
  rw [hlive.1]

/-! ### Calls -/

variable {observers : List Observer} {listeners : List Listener}

/-- A tick that fails does not matter beyond the lifecycle, and whoever might have been told about it
makes no difference. -/
theorem advance_eq_error_iff {e : ClientError} :
    l.advance target observers listeners c = .error e c' ↔ l.ask target c = .error e c' := by
  rcases hask : l.ask target c with ⟨a, c₁⟩ | ⟨e', c₁⟩
  · rw [advance, EStateM.bind_of_ok hask]
    constructor
    · intro h
      cases h
    · intro h
      cases h
  · rw [advance, EStateM.bind_of_error hask]
    simp

/-- Ticks of clients whose memories are alike agree. -/
theorem advance_agree (hunaware : Unaware l.handle observers listeners) (target : Binary64)
    (hlink : c.link = c'.link) (hmemory : c.memory.AlikeBeyond l.handle c'.memory) :
    AgreeBeyond l.handle (l.advance target observers listeners c)
      (l.advance target observers listeners c') := by
  refine (ask_agree target hlink hmemory).bind fun a c₁ c₁' hlink₁ hmemory₁ => ?_
  obtain ⟨hlife, hafter⟩ := turn_alike hunaware l a hmemory₁
  exact (AgreeBeyond.modifyMemory hlink₁ hlife hafter).bind fun next c₂ c₂' hlink₂ hmemory₂ =>
    .ok (l.events a, next) hlink₂ hmemory₂

end Asking

/-! ### Runs -/

/-- Where a lifecycle stands, what its client remembers, and what the ticks have reported so far. -/
structure Stage where
  lifecycle : Lifecycle
  memory : Memory
  said : List StepEvents := []

/-- What happens to a lifecycle or to the memory of its client. A call is made on the link as it is by
then. -/
inductive Deed (σ : Type) where
  | bootstrap (link : σ)
  | advance (link : σ) (target : Binary64) (observers : List Observer) (listeners : List Listener)
  /-- Anything else that is done with the client. -/
  | elsewhere (f : Memory → Memory)

/-- The stages are the same, but for what the lifecycle remembers of its own reads. -/
structure Stage.Alike (s s' : Stage) : Prop where
  lifecycle : s.lifecycle = s'.lifecycle
  said : s.said = s'.said
  memory : s.memory.AlikeBeyond s.lifecycle.handle s'.memory

namespace Stage.Alike

theorem refl (s : Stage) : s.Alike s := ⟨rfl, rfl, .refl _ _⟩

theorem symm {s s' : Stage} (h : s.Alike s') : s'.Alike s :=
  ⟨h.lifecycle.symm, h.said.symm, h.lifecycle ▸ h.memory.symm⟩

theorem trans {s₁ s₂ s₃ : Stage} (h : s₁.Alike s₂) (h' : s₂.Alike s₃) : s₁.Alike s₃ where
  lifecycle := h.lifecycle.trans h'.lifecycle
  said := h.said.trans h'.said
  memory := h.memory.trans (h.lifecycle ▸ h'.memory)

end Stage.Alike

namespace Deed

/-- Whoever has a part in the deed does not look at the answers of the object. -/
def Blind (owner : Handle) : Deed σ → Prop
  | bootstrap _ => True
  | advance _ _ observers listeners => Unaware owner observers listeners
  | elsewhere f => Memory.Blind owner f

variable [Link σ]

/-- What a deed does. A call that fails leaves the lifecycle and the reports as they were. -/
def perform (s : Stage) : Deed σ → Stage
  | bootstrap link =>
    match s.lifecycle.bootstrap { link, memory := s.memory } with
    | .ok l c => { s with lifecycle := l, memory := c.memory }
    | .error _ c => { s with memory := c.memory }
  | advance link target observers listeners =>
    match s.lifecycle.advance target observers listeners { link, memory := s.memory } with
    | .ok (events, l) c => ⟨l, c.memory, s.said ++ [events]⟩
    | .error _ c => { s with memory := c.memory }
  | elsewhere f => { s with memory := f s.memory }

/-- Whether the deed is a call that fails. -/
def fails (s : Stage) : Deed σ → Bool
  | bootstrap link =>
    match s.lifecycle.bootstrap { link, memory := s.memory } with
    | .ok _ _ => false
    | .error _ _ => true
  | advance link target observers listeners =>
    match s.lifecycle.advance target observers listeners { link, memory := s.memory } with
    | .ok _ _ => false
    | .error _ _ => true
  | elsewhere _ => false

/-- What a run of deeds does. -/
def run (deeds : List (Deed σ)) (s : Stage) : Stage := deeds.foldl perform s

/-- The deeds of a run, but for the calls that fail. -/
def succeeding : List (Deed σ) → Stage → List (Deed σ)
  | [], _ => []
  | d :: deeds, s =>
    if d.fails s then succeeding deeds (perform s d) else d :: succeeding deeds (perform s d)

variable {s s' : Stage} {d : Deed σ}

/-- No deed turns the lifecycle into another one. -/
theorem handle_perform (s : Stage) (d : Deed σ) :
    (perform s d).lifecycle.handle = s.lifecycle.handle := by
  cases d with
  | bootstrap link =>
    unfold perform
    dsimp only
    split
    · next l c h =>
      obtain ⟨time, active, m, -, rfl, -⟩ := bootstrap_eq_ok h
      rfl
    · rfl
  | advance link target observers listeners =>
    unfold perform
    dsimp only
    split
    · next events l c h =>
      obtain ⟨a, c₁, -, -, rfl, -⟩ := advance_eq_ok h
      rfl
    · rfl
  | elsewhere f => rfl

/-- A call that fails changes nothing but what the lifecycle remembers of its own reads. -/
theorem perform_of_fails (h : d.fails s = true) : s.Alike (perform s d) := by
  cases d with
  | bootstrap link =>
    unfold fails at h
    unfold perform
    dsimp only at h ⊢
    split at h
    · cases h
    · next e c hcall => exact ⟨rfl, rfl, bootstrap_eq_error hcall⟩
  | advance link target observers listeners =>
    unfold fails at h
    unfold perform
    dsimp only at h ⊢
    split at h
    · cases h
    · next e c hcall =>
      rw [hcall]
      have hask := advance_eq_error_iff.mp hcall
      exact ⟨rfl, rfl, ((ask_alike _ _ _) _ (.refl _ _)).2 _ _ hask⟩
  | elsewhere f => cases h

/-- The same deed leaves stages alike that were alike. -/
theorem perform_alike (hblind : d.Blind s.lifecycle.handle) (h : s.Alike s') :
    (perform s d).Alike (perform s' d) := by
  obtain ⟨l, m, said⟩ := s
  obtain ⟨l', m', said'⟩ := s'
  obtain ⟨hlife, hsaid, hmemory⟩ := h
  dsimp only at hlife hsaid hmemory hblind
  subst hlife
  subst hsaid
  cases d with
  | bootstrap link =>
    have hagree : AgreeBeyond l.handle (l.bootstrap { link, memory := m })
        (l.bootstrap { link, memory := m' }) := bootstrap_agree rfl hmemory
    unfold perform
    dsimp only
    generalize hcall : l.bootstrap { link, memory := m } = r at hagree ⊢
    generalize l.bootstrap { link, memory := m' } = r' at hagree ⊢
    cases hagree with
    | ok l₁ _ hafter =>
      obtain ⟨time, active, m₁, -, rfl, -⟩ := bootstrap_eq_ok hcall
      exact ⟨rfl, rfl, hafter⟩
    | error e _ hafter => exact ⟨rfl, rfl, hafter⟩
  | advance link target observers listeners =>
    have hagree : AgreeBeyond l.handle
        (l.advance target observers listeners { link, memory := m })
        (l.advance target observers listeners { link, memory := m' }) :=
      advance_agree hblind target rfl hmemory
    unfold perform
    dsimp only
    generalize hcall : l.advance target observers listeners { link, memory := m } = r at hagree ⊢
    generalize l.advance target observers listeners { link, memory := m' } = r' at hagree ⊢
    cases hagree with
    | ok told _ hafter =>
      obtain ⟨events, l₁⟩ := told
      obtain ⟨a, c₁, -, -, rfl, -⟩ := advance_eq_ok hcall
      exact ⟨rfl, rfl, hafter⟩
    | error e _ hafter => exact ⟨rfl, rfl, hafter⟩
  | elsewhere f => exact ⟨rfl, rfl, hblind m m' hmemory⟩

/-- Deeds of the same kind leave stages alike, if the calls that fail are left out on one side. -/
theorem run_succeeding_alike {deeds : List (Deed σ)}
    (hblind : ∀ d ∈ deeds, d.Blind s.lifecycle.handle) (h : s.Alike s') :
    (run deeds s).Alike (run (succeeding deeds s) s') := by
  induction deeds generalizing s s' with
  | nil => exact h
  | cons d deeds ih =>
    obtain ⟨hd, hdeeds⟩ := List.forall_mem_cons.mp hblind
    rw [← handle_perform s d] at hdeeds
    rw [succeeding]
    split
    · next hfails =>
      -- the stage has stayed alike, and its counterpart has not moved
      exact ih hdeeds ((perform_of_fails hfails).symm.trans h)
    · exact ih hdeeds (perform_alike hd h)

end Deed

end Lifecycle

/-! ### Simulations -/

/-- The vehicles and the repositories of a simulation, and what the repositories hold. -/
inductive Simulation.Involves (s : Simulation) (m : Memory) : Handle → Prop
  | vehicle {id : String} {h : Handle} (registered : s.lifecycle.live[id]? = some h) : Involves s m h
  | repository (k : Kind) : Involves s m (s.repository k).handle
  | held {k : Kind} {id : String} {h : Handle} (held : ((s.repository k).objects m)[id]? = some h) :
    Involves s m h

variable [Link σ]

/-- None of these is the lifecycle. -/
theorem Simulation.Reachable.ne_of_involves {s : Simulation} {c : Client σ} (h : s.Reachable c)
    {owner : Handle} (howner : s.Involves c.memory owner) : owner ≠ s.lifecycle.handle := by
  obtain ⟨-, -, Γ, hmaps⟩ := h.standing
  have hrole : Γ owner ≠ some .lifecycle := by
    cases howner with
    | vehicle registered =>
      rw [hmaps.covers.live _ _ registered]
      exact nofun
    | repository k =>
      rw [hmaps.covers.repository k]
      exact nofun
    | held held =>
      rw [hmaps.covers.held _ _ _ held]
      exact nofun
  rintro rfl
  exact hrole hmaps.covers.lifecycle

/-! ### The theorem -/

namespace Lifecycle

/-- A bootstrap or a tick that fails leaves everything as it was but what the lifecycle remembers of its
own reads, and nobody has been told about it. A tick that succeeds has its answers from its own reply,
and compares them with the vehicles that were active before it. Whatever calls of a run fail, what the
ticks of the run report and where the lifecycle ends up is as if they had not been made. In a simulation
no vehicle and no repository forgets or learns anything by a step that fails. -/
theorem failed_calls_leave_no_trace :
    (∀ (l : Lifecycle) (c c' : Client σ) (e : ClientError), l.bootstrap c = .error e c' →
      c.memory.AlikeBeyond l.handle c'.memory) ∧
    (∀ (l : Lifecycle) (target : Binary64) (observers : List Observer) (listeners : List Listener)
      (c c' : Client σ) (e : ClientError), l.advance target observers listeners c = .error e c' →
      c.memory.AlikeBeyond l.handle c'.memory ∧
        ∀ observers' listeners', l.advance target observers' listeners' c = .error e c') ∧
    (∀ (l l' : Lifecycle) (target : Binary64) (observers : List Observer) (listeners : List Listener)
      (c c' : Client σ) (events : StepEvents),
      l.advance target observers listeners c = .ok (events, l') c' →
      ∃ frame reply link containers a m, Link.transact frame c.link = .ok reply link ∧
        Response.decode reply = .ok containers ∧ l.tickAnswer? containers = some a ∧
        c.memory.AlikeBeyond l.handle m ∧ events = l.events a ∧
        (l', c'.memory) = turn observers listeners l a m) ∧
    (∀ (d : Deed σ) (s : Stage), d.fails s = true → s.Alike (d.perform s)) ∧
    (∀ (deeds : List (Deed σ)) (s : Stage), (∀ d ∈ deeds, d.Blind s.lifecycle.handle) →
      (Deed.run deeds s).Alike (Deed.run (Deed.succeeding deeds s) s)) ∧
    ∀ (s : Simulation) (target : Binary64) (c c' : Client σ) (e : ClientError), s.Reachable c →
      s.stepTo target c = .error e c' → ∀ owner, s.Involves c.memory owner → ∀ index,
        c'.memory.cells.cached[(⟨owner, index⟩ : Cell)]? =
          c.memory.cells.cached[(⟨owner, index⟩ : Cell)]? := by
  have hfail : ∀ (l : Lifecycle) (target : Binary64) (observers : List Observer)
      (listeners : List Listener) (c c' : Client σ) (e : ClientError),
      l.advance target observers listeners c = .error e c' →
      c.memory.AlikeBeyond l.handle c'.memory := by
    intro l target observers listeners c c' e h
    exact ((ask_alike l target c.memory) c (.refl _ _)).2 e c' (advance_eq_error_iff.mp h)
  refine ⟨fun l c c' e h => bootstrap_eq_error h, ?_, ?_, fun d s h => Deed.perform_of_fails h, ?_, ?_⟩
  · intro l target observers listeners c c' e h
    refine ⟨hfail l target observers listeners c c' e h, fun observers' listeners' => ?_⟩
    exact advance_eq_error_iff.mpr (advance_eq_error_iff.mp h)
  · intro l l' target observers listeners c c' events h
    obtain ⟨a, c₁, hask, hevents, hlife, hmemory⟩ := advance_eq_ok h
    obtain ⟨frame, reply, link, containers, htransact, hdecode, hanswer⟩ := ask_eq_ok hask
    refine ⟨frame, reply, link, containers, a, c₁.memory, htransact, hdecode, hanswer, ?_, hevents,
      Prod.ext hlife hmemory⟩
    exact ((ask_alike l target c.memory) c (.refl _ _)).1 a c₁ hask
  · exact fun deeds s hblind => Deed.run_succeeding_alike hblind (.refl s)
  · intro s target c c' e hreachable h owner howner index
    rcases EStateM.bind_eq_error_iff.mp h with hadvance | ⟨told, c₁, -, hrest⟩
    · have halike := hfail _ _ _ _ _ _ _ hadvance
      exact (halike.cells.cached _ (hreachable.ne_of_involves howner)).symm
    · cases hrest

/-! A tick whose last answer is about another variable, between a bootstrap and a tick that succeeds; and
the same tick of a simulation that has listed its vehicles. -/

namespace Spoiled

def start : Stage := { lifecycle := { handle := 0 }, memory := { nextHandle := 1 } }

def opening : Deed Stream := .bootstrap (.awaiting [start.lifecycle.bootstrapReply { active := ["v0"] }])

/-- A tick with a logging observer and a listener that writes a journal. -/
def tick (time : Binary64) (reply : List Container) : Deed Stream :=
  .advance (.awaiting [reply]) time [.logging] [.recorder "steps"]

/-- The answer about the time is about arrivals instead. -/
def reply : List Container :=
  (start.lifecycle.tickReply { active := ["v1"] }).dropLast ++
    [{ start.lifecycle.timeQuery with code := Code.arrived }.container (.double ⟨1⟩)]

def spoiled : Deed Stream := tick ⟨1⟩ reply

def good : Deed Stream :=
  tick ⟨2⟩ (start.lifecycle.tickReply { time := ⟨2⟩, active := ["v1"] })

theorem unaware (owner : Handle) : Unaware owner [.logging] [.recorder "steps"] where
  observer o ho notice := by
    rw [List.mem_singleton.mp ho]
    cases notice with
    | stepped | built => exact .id owner
    | departed | arrived | teleportStarted | teleportEnded => exact .addLog owner _
  listener x hx time := by
    rw [List.mem_singleton.mp hx]
    exact .note owner _ _

end Spoiled

open Spoiled in
/-- The tick in the middle fails after it has kept a new listing of the active vehicles. The last tick
reports an arrival and a departure all the same. In the simulation the listing of its repository stays. -/
theorem spoiled_tick_leaves_no_trace :
    spoiled.fails (Deed.run [opening] start) = true ∧
      (start.lifecycle.activeQuery.cached? (Deed.run [opening, spoiled] start).memory.cells).bind
        Readable.ofValue? = some ["v1"] ∧
      (Deed.run [opening, spoiled, good] start).said =
        [{ time := ⟨2⟩, departed := ["v1"], arrived := ["v0"] }] ∧
      (Deed.run [opening, spoiled, good] start).Alike (Deed.run [opening, good] start) ∧
      ∃ (s : Simulation) (c c' : Client Stream) (e : ClientError), s.Reachable c ∧
        s.stepTo ⟨1⟩ c = .error e c' ∧
        ((s.repository .vehicle).idList.cached? c.memory.cells).isSome ∧
        (s.repository .vehicle).idList.cached? c'.memory.cells =
          (s.repository .vehicle).idList.cached? c.memory.cells := by
  have hopening : opening.fails start = false := by decide +kernel
  have hspoiled : spoiled.fails (opening.perform start) = true := by decide +kernel
  have hgood : good.fails (spoiled.perform (opening.perform start)) = false := by decide +kernel
  have hsucceeding : Deed.succeeding [opening, spoiled, good] start = [opening, good] := by
    simp only [Deed.succeeding, hopening, hspoiled, hgood, if_true, if_false, Bool.false_eq_true]
  have hblind : ∀ d ∈ [opening, spoiled, good], d.Blind start.lifecycle.handle := by
    simp only [List.forall_mem_cons]
    exact ⟨trivial, unaware _, unaware _, List.forall_mem_nil _⟩
  obtain ⟨-, -, -, -, hrun, hkept⟩ := failed_calls_leave_no_trace (σ := Stream)
  have halike := hrun _ start hblind
  rw [hsucceeding] at halike
  refine ⟨hspoiled, by decide +kernel, by decide +kernel, halike, ?_⟩
  -- the simulation
  have hplay : (Simulation.start (some .zero)).succeedsWith (fun s c =>
      ((s.repository .vehicle).ids (s.factory .vehicle)).succeedsWith (fun _ c =>
        ((s.repository .vehicle).idList.cached? c.memory.cells).isSome &&
          (s.stepTo ⟨1⟩).failsWith (fun _ _ => true) c) c)
      ({ link := .awaiting [start.lifecycle.bootstrapReply { active := ["v0"] },
        [(Repository.idList (k := .vehicle) ⟨1, "", false, false⟩).container (.textList ["v0"])],
        reply] } : Client Stream) = true := by
    decide +kernel
  obtain ⟨s, c₁, hstart, hplay⟩ := Action.of_succeedsWith hplay
  obtain ⟨ids, c, hlist, hplay⟩ := Action.of_succeedsWith hplay
  obtain ⟨hlisted, hplay⟩ := Bool.and_eq_true_iff.mp hplay
  obtain ⟨e, c', hstep, -⟩ := Action.of_failsWith hplay
  have blank : ({} : Memory).Blank := fun _ _ _ => Std.ExtTreeMap.getElem?_empty
  have reached := (Simulation.Reachable.started blank (fun _ _ => rfl) hstart).listed hlist
  exact ⟨s, c, c', e, reached, hstep, hlisted,
    hkept s ⟨1⟩ c c' e reached hstep _ (.repository .vehicle) _⟩

end Lifecycle

end TrafficControl
