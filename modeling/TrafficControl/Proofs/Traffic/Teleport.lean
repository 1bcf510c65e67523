import TrafficControl.Proofs.Traffic.Acts
import TrafficControl.Proofs.Traffic.Detached

/-!
# Vehicles that a teleport takes and brings back

A teleport takes a vehicle away at one tick and brings it back at a later one. In between the vehicle is
not active; yet it has not arrived, and when it is back it has not departed. It stays registered all the
time, with the object that it had.

`Stretch` follows a lifecycle through any number of ticks. It also keeps in mind who was told at each of
them and what the client remembered then, so that one can say what observers were told.

* `Stretch.spared_away`: while it is away, nothing is reported of such a vehicle.
* `teleport_keeps_identity`: from the tick that takes the vehicle to the one that brings it back.
-/

namespace TrafficControl

/-- A tick that went well, those who were told, and what the client remembered when it had its answers. -/
structure Passage extends Tick where
  observers : List Observer
  listeners : List Listener
  memory : Memory

namespace Passage

/-- What the tick left. -/
def after (p : Passage) : Lifecycle × Memory :=
  Lifecycle.turn p.observers p.listeners p.before p.answer p.memory

/-- These are the acts of the tick: those of its script, for its new objects and with records of arriving
vehicles that show them retired. -/
def Acted (p : Passage) (acts : List Act) : Prop :=
  ∃ made record, p.before.Made p.answer p.after.1.live made ∧
    (∀ id, (record id : VehicleRecord).retired = true) ∧
    acts = p.before.script p.observers p.listeners p.answer p.after.1.live made record ∧
    Acts (p.before, p.memory) acts p.after

theorem exists_acted (p : Passage) : ∃ acts, p.Acted acts := by
  obtain ⟨made, hmade⟩ :=
    Lifecycle.exists_made p.observers p.listeners p.before p.answer p.memory
  obtain ⟨record, hretired, hacts⟩ :=
    Lifecycle.acts_turn p.observers p.listeners p.before p.answer p.memory hmade
  exact ⟨_, made, record, hmade, hretired, rfl, hacts⟩

/-- The tick reports neither a departure nor an arrival of an id. -/
def Spares (p : Passage) (id : String) : Prop := id ∉ p.events.departed ∧ id ∉ p.events.arrived

variable {p : Passage} {id : String}

/-- What is not reported is not told. -/
theorem Spares.untold (h : p.Spares id) {acts : List Act} (hacted : p.Acted acts) {o : Observer}
    {n : Notice} (htold : .tell o n ∈ acts) : Lifecycle.movedId? n ≠ some id := by
  obtain ⟨made, record, -, -, rfl, -⟩ := hacted
  intro hmoved
  rcases Lifecycle.reported_of_told htold hmoved with hdep | harr
  · exact h.1 hdep
  · exact h.2 harr

/-- A tick that spares an id leaves its object registered. -/
theorem Spares.live_eq (h : p.Spares id) {v : Handle} (hlive : p.before.live[id]? = some v) :
    p.after.1.live[id]? = some v := by
  rw [← hlive]
  exact Lifecycle.turn_live_of_unmoved p.memory (Registry.mem_iff_exists.mpr ⟨v, hlive⟩) h.2 h.1

/-- The tick that takes a vehicle away spares it, unless the simulator lists it as arrived. -/
theorem spares_of_started (hstarted : id ∈ p.answer.teleportStarted) (hactive : id ∉ p.answer.active)
    (harrived : id ∉ p.answer.arrived) : p.Spares id := by
  refine ⟨fun hdep => hactive (Lifecycle.mem_departedIds_iff.mp hdep).1, fun harr => ?_⟩
  rcases (Lifecycle.mem_arrivedIds_iff.mp harr).2 with ⟨-, hnot⟩ | ⟨hlisted, -⟩
  · exact hnot hstarted
  · exact harrived hlisted

/-- A tick spares a vehicle that is away and stays so. -/
theorem spares_of_away (hbefore : id ∉ p.before.active) (hactive : id ∉ p.answer.active)
    (harrived : id ∉ p.answer.arrived) : p.Spares id := by
  refine ⟨fun hdep => hactive (Lifecycle.mem_departedIds_iff.mp hdep).1, fun harr => ?_⟩
  rcases (Lifecycle.mem_arrivedIds_iff.mp harr).2 with ⟨hactive, -⟩ | ⟨hlisted, -⟩
  · exact hbefore hactive
  · exact harrived hlisted

/-- The tick that brings a vehicle back spares it. -/
theorem spares_of_ended (hended : id ∈ p.answer.teleportEnded) (hactive : id ∈ p.answer.active) :
    p.Spares id :=
  ⟨fun hdep => (Lifecycle.mem_departedIds_iff.mp hdep).2.2 hended,
    Lifecycle.not_mem_arrivedIds_of_active hactive⟩

end Passage

namespace Lifecycle

variable {σ : Type} [Link σ]

/-- `Stretch others l₀ c₀ passages l c`: from where a lifecycle stands at `l₀` with a client `c₀`, it comes to
stand at `l` while its client becomes `c`, and `passages` are the ticks that went well, the latest first.
Others may do what they may in a run. -/
inductive Stretch (others : Memory → Memory → Prop) (l₀ : Lifecycle) (c₀ : Client σ) :
    List Passage → Lifecycle → Client σ → Prop
  | here : Stretch others l₀ c₀ [] l₀ c₀
  | advanced {passages : List Passage} {l l' : Lifecycle} {c c₁ c' : Client σ} {target : Binary64}
      {observers : List Observer} {listeners : List Listener} {a : TickAnswer} {events : StepEvents}
      (stretch : Stretch others l₀ c₀ passages l c) (heed : Heed others observers listeners)
      (hask : l.ask target c = .ok a c₁)
      (h : l.advance target observers listeners c = .ok (events, l') c') :
      Stretch others l₀ c₀ (⟨⟨l, a⟩, observers, listeners, c₁.memory⟩ :: passages) l' c'
  | failed {passages : List Passage} {l : Lifecycle} {c c' : Client σ} {target : Binary64}
      {observers : List Observer} {listeners : List Listener} {e : ClientError}
      (stretch : Stretch others l₀ c₀ passages l c)
      (h : l.advance target observers listeners c = .error e c') :
      Stretch others l₀ c₀ passages l c'
  | elsewhere {passages : List Passage} {l : Lifecycle} {c c' : Client σ}
      (stretch : Stretch others l₀ c₀ passages l c) (h : others c.memory c'.memory) :
      Stretch others l₀ c₀ passages l c'

namespace Stretch

variable {others : Memory → Memory → Prop} {l₀ l : Lifecycle} {c₀ c : Client σ} {p first : Passage}
  {passages : List Passage} {id : String}

/-- A stretch takes a run further. -/
theorem run {ticks : List Tick} (run : Run others ticks l₀ c₀)
    (stretch : Stretch others l₀ c₀ passages l c) :
    Run others (passages.map (·.toTick) ++ ticks) l c := by
  induction stretch with
  | here => exact run
  | advanced _ heed hask h ih => exact ih.advanced heed hask h
  | failed _ h ih => exact ih.failed h
  | elsewhere _ h ih => exact ih.elsewhere h

theorem eq_of_nil (stretch : Stretch others l₀ c₀ [] l c) : l = l₀ := by
  generalize hnil : ([] : List Passage) = passages at stretch
  induction stretch with
  | here => rfl
  | advanced => cases hnil
  | failed _ _ ih => exact ih hnil
  | elsewhere _ _ ih => exact ih hnil

/-- The latest tick of a stretch, and the stretch before it. -/
theorem uncons (stretch : Stretch others l₀ c₀ (p :: passages) l c) :
    l = p.after.1 ∧ ∃ c₁ : Client σ, Stretch others l₀ c₀ passages p.before c₁ := by
  generalize hcons : p :: passages = all at stretch
  induction stretch with
  | here => cases hcons
  | advanced stretch _ hask h =>
    obtain ⟨rfl, rfl⟩ := List.cons_eq_cons.mp hcons
    exact ⟨(advance_eq_ok_of_ask hask h).2.1, _, stretch⟩
  | failed _ _ ih => exact ih hcons
  | elsewhere _ _ ih => exact ih hcons

/-- A tick that has its answers takes a stretch further. -/
theorem asked (stretch : Stretch others l₀ c₀ passages l c) {observers : List Observer}
    {listeners : List Listener} (heed : Heed others observers listeners) {target : Binary64}
    {a : TickAnswer} {c₁ : Client σ} (hask : l.ask target c = .ok a c₁) :
    Stretch others l₀ c₀ (⟨⟨l, a⟩, observers, listeners, c₁.memory⟩ :: passages)
      (turn observers listeners l a c₁.memory).1
      { c₁ with memory := (turn observers listeners l a c₁.memory).2 } :=
  stretch.advanced heed hask (advance_of_ask hask)

/-- What is active after a tick is what the simulator said it was. -/
theorem active_eq (stretch : Stretch others l₀ c₀ (p :: passages) l c) : l.active = p.answer.active := by
  rw [stretch.uncons.1]
  rfl

/-- Vehicles that every tick spares keep their objects. -/
theorem live_eq (stretch : Stretch others l₀ c₀ passages l c) {h : Handle}
    (hlive : l₀.live[id]? = some h) (hspared : ∀ p ∈ passages, p.Spares id) :
    l.live[id]? = some h ∧ ∀ p ∈ passages, p.before.live[id]? = some h := by
  induction passages generalizing l c with
  | nil => exact ⟨stretch.eq_of_nil ▸ hlive, fun _ hp => absurd hp List.not_mem_nil⟩
  | cons p passages ih =>
    obtain ⟨hnow, hearlier⟩ := List.forall_mem_cons.mp hspared
    obtain ⟨rfl, c₁, earlier⟩ := stretch.uncons
    obtain ⟨hbefore, hall⟩ := ih earlier hearlier
    exact ⟨hnow.live_eq hbefore, List.forall_mem_cons.mpr ⟨hbefore, hall⟩⟩

/-- From the tick at which a teleport takes a vehicle, all ticks spare it, as long as none lists it as
active or as arrived. -/
theorem spared_away (stretch : Stretch others l₀ c₀ (passages ++ [first]) l c)
    (hstarted : id ∈ first.answer.teleportStarted)
    (haway : ∀ p ∈ passages ++ [first], id ∉ p.answer.active ∧ id ∉ p.answer.arrived) :
    ∀ p ∈ passages ++ [first], p.Spares id := by
  induction passages generalizing l c with
  | nil =>
    have hfirst := haway first (List.mem_singleton_self first)
    exact List.forall_mem_singleton.mpr (Passage.spares_of_started hstarted hfirst.1 hfirst.2)
  | cons p passages ih =>
    rw [List.cons_append] at stretch
    rw [List.cons_append, List.forall_mem_cons] at haway ⊢
    obtain ⟨⟨hactive, harrived⟩, hearlier⟩ := haway
    obtain ⟨-, c₁, earlier⟩ := stretch.uncons
    refine ⟨Passage.spares_of_away ?_ hactive harrived, ih earlier hearlier⟩
    -- the tick before this one did not list the vehicle as active
    obtain ⟨q, rest, hsplit⟩ : ∃ q rest, passages ++ [first] = q :: rest :=
      List.exists_cons_of_ne_nil (List.append_ne_nil_of_right_ne_nil _ (List.cons_ne_nil _ _))
    rw [hsplit] at earlier hearlier
    rw [earlier.active_eq]
    exact (hearlier q List.mem_cons_self).1

/-- A stretch brings nobody back, if nobody else does. -/
theorem grows (stretch : Stretch others l₀ c₀ passages l c)
    (hothers : ∀ m m', others m m' → m.Grows m') : c₀.memory.Grows c.memory := by
  induction stretch with
  | here => exact .refl _
  | advanced _ heed hask h ih =>
    obtain ⟨-, -, hmem⟩ := advance_eq_ok_of_ask hask h
    rw [hmem]
    exact ih.trans ((Memory.Keeps.of_sameButCells ((ask_cellsOnly _ _).of_ok hask)).grows.trans
      (grows_turn (heed.mono hothers) _ _ _))
  | failed _ h ih => exact ih.trans (Memory.Keeps.of_sameButCells (advance_eq_error h)).grows
  | elsewhere _ h ih => exact ih.trans (hothers _ _ h)

end Stretch

variable {others : Memory → Memory → Prop} {older : List Tick} {l₀ l : Lifecycle} {c₀ c : Client σ}
  {first last : Passage} {between : List Passage} {id : String} {h : Handle}

/-- An id is registered, active or not, when a teleport takes it at one tick; neither this tick nor any other
one lists it as active or as arrived, until a tick lists it as active and as back from a teleport. What else
these ticks say, and about whom, makes no difference. Then (1) no tick reports a departure or an arrival of
it, before each of them its object is registered, and no act of a tick tells an observer that it departed or
arrived; (2) the object is registered in the end; (3) its time of departure is what it was, if nobody else
brings vehicles back, and (4) it is not retired, if everyone else leaves the vehicles alone. -/
theorem teleport_keeps_identity (run : Run others older l₀ c₀)
    (stretch : Stretch others l₀ c₀ (last :: (between ++ [first])) l c)
    (hlive : l₀.live[id]? = some h) (hstarted : id ∈ first.answer.teleportStarted)
    (haway : ∀ p ∈ between ++ [first], id ∉ p.answer.active ∧ id ∉ p.answer.arrived)
    (hback : id ∈ last.answer.active) (hended : id ∈ last.answer.teleportEnded) :
    (∀ p ∈ last :: (between ++ [first]),
      id ∉ p.events.departed ∧ id ∉ p.events.arrived ∧ p.before.live[id]? = some h ∧
        (∃ acts, p.Acted acts) ∧
        ∀ acts, p.Acted acts → ∀ o n, .tell o n ∈ acts → movedId? n ≠ some id) ∧
    l.live[id]? = some h ∧
    ((∀ m m', others m m' → m.Grows m') →
      (c.memory.vehicle h).departTime = (c₀.memory.vehicle h).departTime) ∧
    ((∀ m m', others m m' → m.Keeps m') → (c.memory.vehicle h).retired = false) := by
  obtain ⟨-, c₁, earlier⟩ := stretch.uncons
  have hspared : ∀ p ∈ last :: (between ++ [first]), p.Spares id :=
    List.forall_mem_cons.mpr
      ⟨Passage.spares_of_ended hended hback, earlier.spared_away hstarted haway⟩
  obtain ⟨hafter, hbefore⟩ := stretch.live_eq hlive hspared
  refine ⟨fun p hp => ?_, hafter, fun hothers => ?_, fun hothers => ?_⟩
  · exact ⟨(hspared p hp).1, (hspared p hp).2, hbefore p hp, p.exists_acted, fun acts hacted o n htold =>
      (hspared p hp).untold hacted htold⟩
  · exact (stretch.grows hothers).departTime_eq h (run.bound hothers hlive)
  · exact ((stretch.run run).sound hothers).present id h hafter

theorem heed_logging : Heed Memory.Keeps [.logging] [] where
  observer o ho notice m := by
    rw [List.mem_singleton.mp ho]
    cases notice with
    | stepped | built => exact .refl m
    | departed | arrived | teleportStarted | teleportEnded => exact .addLog _ m
  listener x hx := absurd hx List.not_mem_nil

/-- The client after a tick with a logging observer, as the simulator's answers have left it before. -/
def logged (l : Lifecycle) (a : TickAnswer) (c : Client σ) : Client σ :=
  { c with memory := (turn [.logging] [] l a c.memory).2 }

/-- A teleport takes "v0" for two ticks. Meanwhile "v2" departs and "v1" arrives. -/
theorem teleported_vehicle_same_object :
    ∃ (l₀ l : Lifecycle) (c₀ c : Client Stream) (last middle first : Passage),
      Run Memory.Keeps [] l₀ c₀ ∧ Stretch Memory.Keeps l₀ c₀ [last, middle, first] l c ∧
      l₀.live["v0"]? = some 0 ∧ first.events.departed = ["v2"] ∧ middle.events.arrived = ["v1"] ∧
      (∀ p ∈ [last, middle, first], "v0" ∉ p.events.departed ∧ "v0" ∉ p.events.arrived) ∧
      l.live["v0"]? = some 0 ∧
      (c.memory.vehicle 0).departTime = (c₀.memory.vehicle 0).departTime ∧
      (c.memory.vehicle 0).retired = false := by
  have hplay : (bootstrap { handle := 0 }).succeedsWith (fun l₀ c =>
      l₀.live["v0"]? == some 0 && (l₀.ask .zero).succeedsWith (fun a₁ c =>
        a₁.teleportStarted.contains "v0" && !a₁.active.contains "v0" && !a₁.arrived.contains "v0" &&
          (l₀.events a₁).departed == ["v2"] &&
        ((turn [.logging] [] l₀ a₁ c.memory).1.ask .zero).succeedsWith (fun a₂ c₂ =>
          !a₂.active.contains "v0" && !a₂.arrived.contains "v0" &&
            ((turn [.logging] [] l₀ a₁ c.memory).1.events a₂).arrived == ["v1"] &&
          ((turn [.logging] [] (turn [.logging] [] l₀ a₁ c.memory).1 a₂ c₂.memory).1.ask
            .zero).succeedsWith (fun a₃ _ => a₃.active.contains "v0" && a₃.teleportEnded.contains "v0")
            (logged (turn [.logging] [] l₀ a₁ c.memory).1 a₂ c₂)) (logged l₀ a₁ c)) c)
      ({ link := .awaiting [bootstrapReply { handle := 0 } { active := ["v0", "v1"] },
        tickReply { handle := 0 } { active := ["v1", "v2"], teleportStarted := ["v0"] },
        tickReply { handle := 0 } { active := ["v2"], arrived := ["v1"] },
        tickReply { handle := 0 } { active := ["v0", "v2"], teleportEnded := ["v0"] }] } :
        Client Stream) = true := by
    decide +kernel
  obtain ⟨l₀, c₀, hboot, hplay⟩ := Action.of_succeedsWith hplay
  obtain ⟨hlive, hplay⟩ := Bool.and_eq_true_iff.mp hplay
  obtain ⟨a₁, c₁, hask₁, hplay⟩ := Action.of_succeedsWith hplay
  obtain ⟨htest₁, hplay⟩ := Bool.and_eq_true_iff.mp hplay
  obtain ⟨a₂, c₂, hask₂, hplay⟩ := Action.of_succeedsWith hplay
  obtain ⟨htest₂, hplay⟩ := Bool.and_eq_true_iff.mp hplay
  obtain ⟨a₃, c₃, hask₃, htest₃⟩ := Action.of_succeedsWith hplay
  simp only [Bool.and_eq_true, Bool.not_eq_true', ← Bool.not_eq_true, beq_iff_eq,
    Std.ExtTreeSet.contains_iff_mem, List.contains_iff_mem] at hlive htest₁ htest₂ htest₃
  obtain ⟨⟨⟨hstarted, hactive₁⟩, harrived₁⟩, hdeparted⟩ := htest₁
  obtain ⟨⟨hactive₂, harrived₂⟩, harrived⟩ := htest₂
  have run : Run Memory.Keeps [] l₀ c₀ := .bootstrapped hboot
  have stretch : Stretch Memory.Keeps l₀ c₀ (_ :: ([_] ++ [_])) _ _ :=
    ((Stretch.here.asked heed_logging hask₁).asked heed_logging hask₂).asked heed_logging hask₃
  have hsame := teleport_keeps_identity run stretch hlive hstarted
    (by
      simp only [List.cons_append, List.nil_append, List.forall_mem_cons]
      exact ⟨⟨hactive₂, harrived₂⟩, ⟨hactive₁, harrived₁⟩, List.forall_mem_nil _⟩)
    htest₃.1 htest₃.2
  obtain ⟨hpassages, hafter, hdepartTime, hretired⟩ := hsame
  exact ⟨l₀, _, c₀, _, _, _, _, run, stretch, hlive, hdeparted, harrived,
    fun p hp => ⟨(hpassages p hp).1, (hpassages p hp).2.1⟩, hafter,
    hdepartTime fun _ _ => Memory.Keeps.grows, hretired fun _ _ hm => hm⟩

end Lifecycle

end TrafficControl
