import TrafficControl.Proofs.Traffic.Notices
import TrafficControl.Proofs.Traffic.Replies

/-!
# Runs of a lifecycle

A run starts with the bootstrap of a lifecycle whose registry is empty and goes on with any number
of ticks, successful or not, while others work with the same client. Nobody else writes to the
registry, and what the simulator says is arbitrary. The listings of one tick need not fit those of
another.

* `arrivals_of_registered`: what is active is registered; what is registered and not active is held
  for a teleport; hence only registered vehicles arrive, and every observer is told of each once.
-/

namespace TrafficControl

/-- A tick that went well. -/
structure Tick where
  /-- Where the lifecycle stood before. -/
  before : Lifecycle
  /-- What the simulator said. -/
  answer : TickAnswer

namespace Tick

/-- What the tick reported. -/
def events (t : Tick) : StepEvents := t.before.events t.answer

end Tick

namespace Lifecycle

variable {σ : Type}

/-- Observers and listeners do nothing to the memory but what others may do. -/
structure Heed (others : Memory → Memory → Prop) (observers : List Observer)
    (listeners : List Listener) : Prop where
  observer : ∀ o ∈ observers, ∀ notice m, others m (o.tell notice m)
  listener : ∀ x ∈ listeners, ∀ time m, others m (x.nextStep time m)

/-- `Run others ticks l c`: a lifecycle has come to stand at `l` while its client has become `c`,
and `ticks` are the ticks that went well, the latest first. Whoever is told, and whoever works with
the client between the calls, does to its memory what `others` allows. -/
inductive Run [Link σ] (others : Memory → Memory → Prop) :
    List Tick → Lifecycle → Client σ → Prop
  | bootstrapped {handle : Handle} {l : Lifecycle} {c c' : Client σ}
      (h : bootstrap { handle } c = .ok l c') : Run others [] l c'
  | bootstrapFailed {handle : Handle} {e : ClientError} {c c' : Client σ}
      (h : bootstrap { handle } c = .error e c') : Run others [] { handle } c'
  | advanced {ticks : List Tick} {l l' : Lifecycle} {c c₁ c' : Client σ} {target : Binary64}
      {observers : List Observer} {listeners : List Listener} {a : TickAnswer}
      {events : StepEvents} (run : Run others ticks l c) (heed : Heed others observers listeners)
      (hask : l.ask target c = .ok a c₁)
      (h : l.advance target observers listeners c = .ok (events, l') c') :
      Run others (⟨l, a⟩ :: ticks) l' c'
  | failed {ticks : List Tick} {l : Lifecycle} {c c' : Client σ} {target : Binary64}
      {observers : List Observer} {listeners : List Listener} {e : ClientError}
      (run : Run others ticks l c) (h : l.advance target observers listeners c = .error e c') :
      Run others ticks l c'
  | elsewhere {ticks : List Tick} {l : Lifecycle} {c c' : Client σ} (run : Run others ticks l c)
      (h : others c.memory c'.memory) : Run others ticks l c'

theorem Heed.nobody (others : Memory → Memory → Prop) : Heed others [] [] :=
  ⟨fun _ h => absurd h List.not_mem_nil, fun _ h => absurd h List.not_mem_nil⟩

theorem Heed.mono {others others' : Memory → Memory → Prop} {observers : List Observer}
    {listeners : List Listener} (heed : Heed others observers listeners)
    (h : ∀ m m', others m m' → others' m m') : Heed others' observers listeners :=
  ⟨fun o ho notice m => h _ _ (heed.observer o ho notice m),
    fun x hx time m => h _ _ (heed.listener x hx time m)⟩

/-- A tick that goes well takes a run further. -/
theorem Run.tick [Link σ] {others : Memory → Memory → Prop} {ticks : List Tick} {l l' : Lifecycle}
    {c c' : Client σ} (run : Run others ticks l c) {target : Binary64} {observers : List Observer}
    {listeners : List Listener} (heed : Heed others observers listeners) {events : StepEvents}
    (h : l.advance target observers listeners c = .ok (events, l') c') :
    ∃ a, events = l.events a ∧ Run others (⟨l, a⟩ :: ticks) l' c' := by
  obtain ⟨a, c₁, hask, hevents, -, -⟩ := advance_eq_ok h
  exact ⟨a, hevents, run.advanced heed hask h⟩

/-- An id left the active ones because a teleport took it, and since then no tick listed it as
active or as arrived. -/
def HeldForTeleport (ticks : List Tick) (id : String) : Prop :=
  ∃ newer t older, ticks = newer ++ t :: older ∧
    id ∈ t.before.active ∧ id ∈ t.answer.teleportStarted ∧
    ∀ u ∈ newer ++ [t], id ∉ u.answer.active ∧ id ∉ u.answer.arrived

/-! ### Who is registered -/

/-- What the listings of a run leave behind: who is active is registered, and who else is registered
is held for a teleport. -/
structure Tracked (ticks : List Tick) (l : Lifecycle) : Prop where
  registered : ∀ id ∈ l.active, id ∈ l.live
  held : ∀ id ∈ l.live, id ∉ l.active → HeldForTeleport ticks id

theorem HeldForTeleport.cons {ticks : List Tick} {id : String} (h : HeldForTeleport ticks id)
    {t : Tick} (hactive : id ∉ t.answer.active) (harrived : id ∉ t.answer.arrived) :
    HeldForTeleport (t :: ticks) id := by
  obtain ⟨newer, u, older, rfl, hbefore, hstarted, hsince⟩ := h
  refine ⟨t :: newer, u, older, rfl, hbefore, hstarted, ?_⟩
  intro v hv
  rcases List.mem_cons.mp hv with rfl | hv
  · exact ⟨hactive, harrived⟩
  · exact hsince v hv

theorem tracked_empty (handle : Handle) : Tracked [] { handle } where
  registered _ h := absurd h Std.ExtTreeSet.not_mem_empty
  held _ h := absurd h Std.ExtTreeMap.not_mem_empty

theorem tracked_bootstrap [Link σ] {handle : Handle} {l : Lifecycle} {c c' : Client σ}
    (h : bootstrap { handle } c = .ok l c') : Tracked [] l := by
  obtain ⟨time, active, m, -, rfl, -⟩ := bootstrap_eq_ok h
  constructor
  · intro id hid
    exact (mem_registerAll_iff _ _ _ id).mpr (Or.inr (Std.ExtTreeSet.mem_toList.mpr hid))
  · intro id hid hnot
    rcases (mem_registerAll_iff _ _ _ id).mp hid with hid | hid
    · exact absurd hid Std.ExtTreeMap.not_mem_empty
    · exact absurd (Std.ExtTreeSet.mem_toList.mp hid) hnot

/-- A tick keeps track. A vehicle that stays registered without being active was held already, or a
teleport takes it now. -/
theorem tracked_turn {ticks : List Tick} {l : Lifecycle} (h : Tracked ticks l)
    (observers : List Observer) (listeners : List Listener) (a : TickAnswer) (m : Memory) :
    Tracked (⟨l, a⟩ :: ticks) (turn observers listeners l a m).1 := by
  constructor
  · exact fun id hid => active_registered_turn m h.registered hid
  · intro id hid hnot
    have hnot : id ∉ a.active := hnot
    rcases (mem_turn_live_iff m).mp hid with ⟨hlive, harr⟩ | hdep | ⟨-, hactive⟩
    · -- what is listed as arrived while registered and not active does arrive
      have hlisted : id ∉ a.arrived := fun hl =>
        harr (mem_arrivedIds_iff.mpr ⟨hnot, Or.inr ⟨hl, hlive⟩⟩)
      by_cases hbefore : id ∈ l.active
      · have hstarted : id ∈ a.teleportStarted := by
          by_contra hs
          exact harr (mem_arrivedIds_iff.mpr ⟨hnot, Or.inl ⟨hbefore, hs⟩⟩)
        refine ⟨[], ⟨l, a⟩, ticks, rfl, hbefore, hstarted, ?_⟩
        intro u hu
        obtain rfl := List.mem_singleton.mp hu
        exact ⟨hnot, hlisted⟩
      · exact (h.held id hlive hbefore).cons hnot hlisted
    · exact absurd (mem_departedIds_iff.mp hdep).1 hnot
    · exact absurd hactive hnot

theorem Run.tracked [Link σ] {others : Memory → Memory → Prop} {ticks : List Tick} {l : Lifecycle}
    {c : Client σ} (run : Run others ticks l c) : Tracked ticks l := by
  induction run with
  | bootstrapped h => exact tracked_bootstrap h
  | bootstrapFailed => exact tracked_empty _
  | advanced _ _ hask h ih =>
    obtain ⟨-, rfl, -⟩ := advance_eq_ok_of_ask hask h
    exact tracked_turn ih _ _ _ _
  | failed _ _ ih => exact ih
  | elsewhere _ _ ih => exact ih

/-! ### Who arrives -/

/-- Where the active vehicles are registered, only registered vehicles arrive. -/
theorem registered_of_arrived {l : Lifecycle} {a : TickAnswer} {id : String}
    (h : ∀ x ∈ l.active, x ∈ l.live) (hid : id ∈ l.arrivedIds a) : id ∈ l.live := by
  rcases (mem_arrivedIds_iff.mp hid).2 with ⟨hactive, -⟩ | ⟨-, hlive⟩
  · exact h id hactive
  · exact hlive

end Lifecycle

end TrafficControl
