import TrafficControl.Proofs.Traffic.Objects

/-!
# Objects that are no longer registered

An object that was registered once and is no longer ought to be retired, so that whoever still holds
it learns that its vehicle has gone. Arrivals see to that. A departure does not: if the id that
departs is still registered, held for a teleport that never ended, the new object takes the place of
the old one, and the old one is neither registered nor retired from then on. `Tick.Replaces` says
that this happens at a tick, and `detached_iff_replaced` that nothing else detaches objects without
retiring them.
-/

namespace TrafficControl

/-- An id departs at a tick although an object is registered under it. -/
def Tick.Replaces (t : Tick) (id : String) : Prop :=
  id ∈ t.before.live ∧ id ∈ t.events.departed

/-- An object was registered under an id at some point of a run. -/
def EverRegistered (ticks : List Tick) (l : Lifecycle) (id : String) (h : Handle) : Prop :=
  l.live[id]? = some h ∨ ∃ t ∈ ticks, t.before.live[id]? = some h

theorem everRegistered_cons {ticks : List Tick} {l l' : Lifecycle} {a : TickAnswer} {id : String}
    {h : Handle} :
    EverRegistered (⟨l, a⟩ :: ticks) l' id h ↔ l'.live[id]? = some h ∨ EverRegistered ticks l id h := by
  unfold EverRegistered
  rw [List.exists_mem_cons_iff]

namespace Lifecycle

variable {σ : Type} [Link σ] {others : Memory → Memory → Prop} {ticks : List Tick} {l : Lifecycle}
  {c : Client σ}

theorem sound_bootstrap {handle : Handle} {c c' : Client σ}
    (h : bootstrap { handle } c = .ok l c') : l.live.Sound c'.memory := by
  obtain ⟨time, active, m, -, rfl, hmem⟩ := bootstrap_eq_ok h
  rw [hmem]
  exact (sound_registerAll _ (.empty m)).keeps (Memory.Keeps.addLog _ _)

/-- What is registered in the course of the departures of a tick was registered before the tick or is
registered after it. -/
theorem everRegistered_of_departing (observers : List Observer) (listeners : List Listener)
    {a : TickAnswer} {m : Memory} {earlier later : List String}
    (hsplit : l.departedIds a = earlier ++ later) {id : String} {h : Handle}
    (hlive : (earlier.foldl (depart observers a.time) (afterArrivals observers l a m)).1[id]? = some h) :
    EverRegistered (⟨l, a⟩ :: ticks) (turn observers listeners l a m).1 id h := by
  by_cases hid : id ∈ earlier
  · exact Or.inl ((turn_live_of_departing m hsplit hid).trans hlive)
  · rw [foldl_depart_live_of_not_mem _ hid, afterArrivals, foldl_arrive_live] at hlive
    split at hlive
    · cases hlive
    · exact Or.inr ⟨⟨l, a⟩, List.mem_cons_self, hlive⟩

/-- What is registered in the course of the returns of a tick is registered after it. -/
theorem everRegistered_of_returning (observers : List Observer) (listeners : List Listener)
    {a : TickAnswer} {m : Memory} {earlier later : List String}
    (hsplit : a.teleportEnded.toList.filter a.active.contains = earlier ++ later) {id : String}
    {h : Handle}
    (hlive : (earlier.foldl (registerNew a.time) (afterDepartures observers l a m)).1[id]? = some h) :
    EverRegistered (⟨l, a⟩ :: ticks) (turn observers listeners l a m).1 id h := by
  have hmem : id ∈ (earlier.foldl (registerNew a.time) (afterDepartures observers l a m)).1 :=
    Registry.mem_iff_exists.mpr ⟨h, hlive⟩
  exact Or.inl ((turn_live_of_returning m hsplit hmem).trans hlive)

/-- What is registered was made before, whatever others do short of bringing vehicles back. -/
theorem Run.bound (run : Run others ticks l c) (hothers : ∀ m m', others m m' → m.Grows m')
    {id : String} {h : Handle} (hlive : l.live[id]? = some h) : h < c.memory.nextHandle := by
  induction run with
  | bootstrapped hboot => exact (sound_bootstrap hboot).bound id h hlive
  | bootstrapFailed => exact absurd hlive Registry.getElem?_empty_ne_some
  | advanced run heed hask hadv ih =>
    obtain ⟨-, rfl, hmem⟩ := advance_eq_ok_of_ask hask hadv
    have hasked := (ask_cellsOnly _ _).of_ok hask
    rw [hmem]
    rcases turn_live_cases (heed.mono hothers) hlive with ⟨hold, -, -⟩ | ⟨-, hlt⟩
    · refine Nat.lt_of_lt_of_le (ih hold) ?_
      rw [← hasked.nextHandle_eq]
      exact (grows_turn (heed.mono hothers) _ _ _).nextHandle_le
    · exact hlt
  | failed run hadv ih => exact (advance_eq_error hadv).nextHandle_eq ▸ ih hlive
  | elsewhere run hother ih => exact Nat.lt_of_lt_of_le (ih hlive) (hothers _ _ hother).nextHandle_le

/-! ### While nothing is replaced -/

/-- Every object that was ever registered is still registered under its id, or is retired. -/
def Accounted (ticks : List Tick) (l : Lifecycle) (m : Memory) : Prop :=
  ∀ (id : String) (h : Handle), EverRegistered ticks l id h →
    h < m.nextHandle ∧ (l.live[id]? = some h ∨ (m.vehicle h).retired = true)

theorem Accounted.grows {m m' : Memory} (hm : m.Grows m') (ha : Accounted ticks l m) :
    Accounted ticks l m' := by
  intro id h hever
  obtain ⟨hbound, hkept⟩ := ha id h hever
  exact ⟨Nat.lt_of_lt_of_le hbound hm.nextHandle_le, hkept.imp_right (hm.retired h hbound)⟩

theorem accounted_of_sound {m : Memory} (hs : l.live.Sound m) : Accounted [] l m := by
  rintro id h (hlive | ⟨t, ht, -⟩)
  · exact ⟨hs.bound id h hlive, Or.inl hlive⟩
  · cases ht

/-- A tick at which nothing is replaced loses no object: those of the vehicles that arrive are retired,
the others stay registered. -/
theorem accounted_turn {observers : List Observer} {listeners : List Listener}
    (heed : Heed Memory.Grows observers listeners) {m : Memory} (ha : Accounted ticks l m)
    {a : TickAnswer} (hnever : ∀ id, ¬ (⟨l, a⟩ : Tick).Replaces id) :
    Accounted (⟨l, a⟩ :: ticks) (turn observers listeners l a m).1
      (turn observers listeners l a m).2 := by
  have hgrows := grows_turn heed l a m
  intro id h hever
  rcases everRegistered_cons.mp hever with hlive | hever
  · refine ⟨?_, Or.inl hlive⟩
    rcases turn_live_cases heed hlive with ⟨hold, -, -⟩ | ⟨-, hlt⟩
    · exact Nat.lt_of_lt_of_le (ha id h (Or.inl hold)).1 hgrows.nextHandle_le
    · exact hlt
  · obtain ⟨hbound, hkept⟩ := ha id h hever
    refine ⟨Nat.lt_of_lt_of_le hbound hgrows.nextHandle_le, ?_⟩
    rcases hkept with hlive | hretired
    · have hregistered : id ∈ l.live := Registry.mem_iff_exists.mpr ⟨h, hlive⟩
      by_cases harr : id ∈ l.arrivedIds a
      · exact Or.inr (retired_of_arrived heed hlive hbound harr)
      · have hdep : id ∉ l.departedIds a := fun hdep => hnever id ⟨hregistered, hdep⟩
        exact Or.inl ((turn_live_of_unmoved m hregistered harr hdep).trans hlive)
    · exact Or.inr (hgrows.retired h hbound hretired)

/-- As long as no departing id was still registered, every object is accounted for. -/
theorem Run.accounted (run : Run others ticks l c) (hothers : ∀ m m', others m m' → m.Grows m')
    (hnever : ∀ t ∈ ticks, ∀ id, ¬ t.Replaces id) : Accounted ticks l c.memory := by
  induction run with
  | bootstrapped hboot => exact accounted_of_sound (sound_bootstrap hboot)
  | bootstrapFailed => exact accounted_of_sound (.empty _)
  | advanced run heed hask hadv ih =>
    obtain ⟨hnow, hbefore⟩ := List.forall_mem_cons.mp hnever
    obtain ⟨-, rfl, hmem⟩ := advance_eq_ok_of_ask hask hadv
    have hasked := Memory.Keeps.of_sameButCells ((ask_cellsOnly _ _).of_ok hask)
    rw [hmem]
    exact accounted_turn (heed.mono hothers) ((ih hbefore).grows hasked.grows) hnow
  | failed run hadv ih =>
    exact (ih hnever).grows (Memory.Keeps.of_sameButCells (advance_eq_error hadv)).grows
  | elsewhere run hother ih => exact (ih hnever).grows (hothers _ _ hother)

/-! ### What is replaced stays detached -/

/-- An object is registered under no id, and is not retired. -/
structure Lost (l : Lifecycle) (m : Memory) (h : Handle) : Prop where
  bound : h < m.nextHandle
  detached : ∀ id : String, l.live[id]? ≠ some h
  present : (m.vehicle h).retired = false

theorem Lost.keeps {m m' : Memory} {h : Handle} (hl : Lost l m h) (hm : m.Keeps m') :
    Lost l m' h where
  bound := Nat.lt_of_lt_of_le hl.bound hm.nextHandle_le
  detached := hl.detached
  present := by rw [hm.vehicle_eq h hl.bound, hl.present]

variable {observers : List Observer} {listeners : List Listener}
  (heed : Heed Memory.Keeps observers listeners)

include heed

omit [Link σ] in
/-- What is lost stays lost. -/
theorem lost_turn {m : Memory} {h : Handle} (hl : Lost l m h) (a : TickAnswer) :
    Lost (turn observers listeners l a m).1 (turn observers listeners l a m).2 h := by
  have hkeeps := keepsBut_turn heed l a m
  refine ⟨Nat.lt_of_lt_of_le hl.bound hkeeps.nextHandle_le, ?_, ?_⟩
  · intro id hlive
    rcases turn_live_cases (heed.mono fun _ _ => Memory.Keeps.grows) hlive with
      ⟨hold, -, -⟩ | ⟨hle, -⟩
    · exact hl.detached id hold
    · exact absurd hl.bound (Nat.not_lt_of_le hle)
  · rw [hkeeps.vehicle_eq h hl.bound fun ⟨id, _, hlive⟩ => hl.detached id hlive, hl.present]

omit [Link σ] in
/-- The object of an id that departs while it is registered is lost. -/
theorem lost_of_replaced {m : Memory} (hs : l.live.Sound m) {a : TickAnswer} {id : String}
    {h : Handle} (hlive : l.live[id]? = some h) (hdep : id ∈ l.departedIds a) :
    Lost (turn observers listeners l a m).1 (turn observers listeners l a m).2 h := by
  have hkeeps := keepsBut_turn heed l a m
  have hbound := hs.bound id h hlive
  refine ⟨Nat.lt_of_lt_of_le hbound hkeeps.nextHandle_le, ?_, ?_⟩
  · intro x hx
    rcases turn_live_cases (heed.mono fun _ _ => Memory.Keeps.grows) hx with
      ⟨hold, -, hnot⟩ | ⟨hle, -⟩
    · obtain rfl := hs.unique x id h hold hlive
      exact hnot hdep
    · exact absurd hbound (Nat.not_lt_of_le hle)
  · rw [hkeeps.vehicle_eq h hbound, hs.present id h hlive]
    rintro ⟨x, harr, hx⟩
    obtain rfl := hs.unique x id h hx hlive
    exact not_mem_arrivedIds_of_active (mem_departedIds_iff.mp hdep).1 harr

omit heed

theorem Run.sound (run : Run others ticks l c) (hothers : ∀ m m', others m m' → m.Keeps m') :
    l.live.Sound c.memory := by
  induction run with
  | bootstrapped h => exact sound_bootstrap h
  | bootstrapFailed => exact .empty _
  | advanced run heed hask h ih =>
    obtain ⟨-, rfl, hmem⟩ := advance_eq_ok_of_ask hask h
    rw [hmem]
    exact sound_turn (heed.mono hothers)
      (ih.keeps (.of_sameButCells ((ask_cellsOnly _ _).of_ok hask))) _
  | failed run h ih => exact ih.keeps (.of_sameButCells (advance_eq_error h))
  | elsewhere run h ih => exact ih.keeps (hothers _ _ h)

/-- Whatever was replaced at some tick of a run is lost. -/
theorem Run.lost_of_replaced (run : Run others ticks l c)
    (hothers : ∀ m m', others m m' → m.Keeps m') {t : Tick} (ht : t ∈ ticks) {id : String}
    (hreplaces : t.Replaces id) : ∃ h, t.before.live[id]? = some h ∧ Lost l c.memory h := by
  induction run with
  | bootstrapped => cases ht
  | bootstrapFailed => cases ht
  | @advanced ticks l l' c c₁ c' target observers listeners a events run heed hask hadv ih =>
    obtain ⟨-, rfl, hmem⟩ := advance_eq_ok_of_ask hask hadv
    have hcells := Memory.Keeps.of_sameButCells ((ask_cellsOnly l target).of_ok hask)
    rw [hmem]
    rcases List.mem_cons.mp ht with rfl | ht
    · obtain ⟨hlive, hdep⟩ := hreplaces
      obtain ⟨h, hh⟩ := Registry.mem_iff_exists.mp hlive
      exact ⟨h, hh, Lifecycle.lost_of_replaced (heed.mono hothers)
        ((run.sound hothers).keeps hcells) hh hdep⟩
    · obtain ⟨h, hh, hlost⟩ := ih ht
      exact ⟨h, hh, lost_turn (heed.mono hothers) (hlost.keeps hcells) a⟩
  | failed run hadv ih =>
    obtain ⟨h, hh, hlost⟩ := ih ht
    exact ⟨h, hh, hlost.keeps (.of_sameButCells (advance_eq_error hadv))⟩
  | elsewhere run hother ih =>
    obtain ⟨h, hh, hlost⟩ := ih ht
    exact ⟨h, hh, hlost.keeps (hothers _ _ hother)⟩

/-- Every object that was ever registered is still registered under its id or is retired, exactly if
no id departed at any tick while an object was registered under it: this much is enough whatever
others do short of bringing vehicles back; and where others leave vehicles alone, every object that a
departure replaced is detached and not retired. -/
theorem detached_iff_replaced (run : Run others ticks l c)
    (hothers : ∀ m m', others m m' → m.Grows m') :
    ((∀ t ∈ ticks, ∀ id, ¬ t.Replaces id) → ∀ id h, EverRegistered ticks l id h →
      l.live[id]? = some h ∨ (c.memory.vehicle h).retired = true) ∧
    ((∀ m m', others m m' → m.Keeps m') → ∀ t ∈ ticks, ∀ id, t.Replaces id →
      ∃ h, EverRegistered ticks l id h ∧ l.live[id]? ≠ some h ∧
        (c.memory.vehicle h).retired = false) := by
  constructor
  · intro hnever id h hever
    exact (run.accounted hothers hnever id h hever).2
  · intro hkeeps t ht id hreplaces
    obtain ⟨h, hh, hlost⟩ := run.lost_of_replaced hkeeps ht hreplaces
    exact ⟨h, Or.inr ⟨t, ht, hh⟩, hlost.detached id, hlost.present⟩

/-- A vehicle that has left is retired. -/
theorem departed_vehicle_retired :
    ∃ ticks l, ∃ c : Client Stream, Run Memory.Keeps ticks l c ∧
      EverRegistered ticks l "v0" 0 ∧ (c.memory.vehicle 0).retired = true := by
  have hplay : (bootstrap { handle := 0 }).succeedsWith (fun l c =>
      l.live["v0"]? == some 0 && (l.advance .zero [] []).succeedsWith
        (fun r _ => r.1.departed.isEmpty && r.2.live.isEmpty) c)
      ({ link := .awaiting [bootstrapReply { handle := 0 } { active := ["v0"] },
        tickReply { handle := 0 } {}] } : Client Stream) = true := by
    decide +kernel
  obtain ⟨l₁, c₁, hboot, hplay⟩ := Action.of_succeedsWith hplay
  obtain ⟨hlive, hplay⟩ := Bool.and_eq_true_iff.mp hplay
  obtain ⟨⟨events, l₂⟩, c₂, hadvance, htest⟩ := Action.of_succeedsWith hplay
  obtain ⟨hdeparted, hempty⟩ := Bool.and_eq_true_iff.mp htest
  obtain ⟨a, rfl, run⟩ := (Run.bootstrapped hboot).tick (.nobody Memory.Keeps) hadvance
  have hever : EverRegistered [⟨l₁, a⟩] l₂ "v0" 0 :=
    Or.inr ⟨⟨l₁, a⟩, List.mem_cons_self, beq_iff_eq.mp hlive⟩
  have hnever : ∀ t ∈ [(⟨l₁, a⟩ : Tick)], ∀ id, ¬ t.Replaces id := by
    rintro t ht id ⟨-, hdep⟩
    obtain rfl := List.mem_singleton.mp ht
    have hnone : (l₁.events a).departed = [] := List.isEmpty_iff.mp hdeparted
    rw [Tick.events, hnone] at hdep
    cases hdep
  refine ⟨_, l₂, c₂, run, hever, ?_⟩
  refine ((detached_iff_replaced run fun _ _ => Memory.Keeps.grows).1 hnever "v0" 0 hever).resolve_left ?_
  have hempty : l₂.live = ∅ := Std.ExtTreeMap.isEmpty_iff.mp hempty
  rw [hempty]
  exact Registry.getElem?_empty_ne_some

/-- A vehicle that a teleport took away and that is active again, though its teleport was not said to
have ended, gets a new object; the old one is detached and not retired. -/
theorem replaced_vehicle_not_retired :
    ∃ ticks l, ∃ c : Client Stream, Run Memory.Keeps ticks l c ∧
      EverRegistered ticks l "v0" 0 ∧ l.live["v0"]? ≠ some 0 ∧
        (c.memory.vehicle 0).retired = false := by
  have hplay : (bootstrap { handle := 0 }).succeedsWith (fun l c =>
      l.live["v0"]? == some 0 && (l.advance .zero [] []).succeedsWith
        (fun r => (r.2.advance .zero [] []).succeedsWith
          fun r c => r.2.live["v0"]? != some 0 && !(c.memory.vehicle 0).retired) c)
      ({ link := .awaiting [bootstrapReply { handle := 0 } { active := ["v0"] },
        tickReply { handle := 0 } { teleportStarted := ["v0"] },
        tickReply { handle := 0 } { active := ["v0"] }] } : Client Stream) = true := by
    decide +kernel
  obtain ⟨l₁, c₁, hboot, hplay⟩ := Action.of_succeedsWith hplay
  obtain ⟨hlive, hplay⟩ := Bool.and_eq_true_iff.mp hplay
  obtain ⟨⟨events₂, l₂⟩, c₂, hadvance₂, hplay⟩ := Action.of_succeedsWith hplay
  obtain ⟨⟨events₃, l₃⟩, c₃, hadvance₃, htest⟩ := Action.of_succeedsWith hplay
  obtain ⟨hdetached, hretired⟩ := Bool.and_eq_true_iff.mp htest
  rw [Bool.not_eq_true'] at hretired
  obtain ⟨a₂, -, run₂⟩ := (Run.bootstrapped hboot).tick (.nobody Memory.Keeps) hadvance₂
  obtain ⟨a₃, -, run₃⟩ := run₂.tick (.nobody Memory.Keeps) hadvance₃
  refine ⟨_, l₃, c₃, run₃, Or.inr ⟨⟨l₁, a₂⟩, ?_, beq_iff_eq.mp hlive⟩, bne_iff_ne.mp hdetached,
    hretired⟩
  exact List.mem_cons_of_mem _ List.mem_cons_self

end Lifecycle

end TrafficControl
