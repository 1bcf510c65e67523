import TrafficControl.Proofs.Client.Outcome

/-!
# What actions meet

`x.Meets P Q E` says of an action `x` that, from a memory that satisfies `P`, it either succeeds with a
result and a memory that satisfy `Q`, or fails with a failure and a memory that satisfy `E`. What an
action meets is put together from what its parts meet.

* `Meets.bind`, `Meets.mono`: sequences and consequences.
* `Meets.named`, `Meets.elim`: names for what an action starts from.
-/

namespace TrafficControl

/-- From a memory that satisfies `P`, the action succeeds with what satisfies `Q` or fails with what
satisfies `E`. -/
def Action.Meets {σ α : Type} (P : Memory → Prop) (x : Action σ α) (Q : α → Memory → Prop)
    (E : ClientError → Memory → Prop) : Prop :=
  ∀ c : Client σ, P c.memory →
    (∀ a c', x c = .ok a c' → Q a c'.memory) ∧ ∀ e c', x c = .error e c' → E e c'.memory

namespace Action.Meets

variable {σ α β : Type} {P P' : Memory → Prop} {x : Action σ α} {Q Q' : α → Memory → Prop}
  {R : β → Memory → Prop} {E E' : ClientError → Memory → Prop}

/-! ### Rules for any action -/

/-- Less may be assumed than is needed, and more may be met. -/
theorem mono (h : x.Meets P Q E) (hP : ∀ m, P' m → P m) (hQ : ∀ a m, Q a m → Q' a m)
    (hE : ∀ e m, E e m → E' e m) : x.Meets P' Q' E' := by
  intro c hc
  obtain ⟨hok, herror⟩ := h c (hP _ hc)
  exact ⟨fun a c' hx => hQ a _ (hok a c' hx), fun e c' hx => hE e _ (herror e c' hx)⟩

theorem bind {f : α → Action σ β} (hx : x.Meets P Q E) (hf : ∀ a, (f a).Meets (Q a) R E) :
    (x >>= f).Meets P R E := by
  intro c hc
  obtain ⟨hok, herror⟩ := hx c hc
  constructor
  · intro b c' hbind
    obtain ⟨a, c₁, hfirst, hrest⟩ := EStateM.bind_eq_ok_iff.mp hbind
    exact (hf a c₁ (hok a c₁ hfirst)).1 b c' hrest
  · intro e c' hbind
    rcases EStateM.bind_eq_error_iff.mp hbind with hfirst | ⟨a, c₁, hfirst, hrest⟩
    · exact herror e c' hfirst
    · exact (hf a c₁ (hok a c₁ hfirst)).2 e c' hrest

theorem map (f : α → β) (hx : x.Meets P (fun a => R (f a)) E) : (f <$> x).Meets P R E := by
  intro c hc
  obtain ⟨hok, herror⟩ := hx c hc
  constructor
  · intro b c' hmap
    obtain ⟨a, hfirst, rfl⟩ := EStateM.map_eq_ok_iff.mp hmap
    exact hok a c' hfirst
  · intro e c' hmap
    exact herror e c' (EStateM.map_eq_error_iff.mp hmap)

/-- A result that nobody looks at may be anything. -/
theorem discard (hx : x.Meets P (fun _ => P') E) :
    (Functor.discard x : Action σ Unit).Meets P (fun _ => P') E := by
  intro c hc
  obtain ⟨hok, herror⟩ := hx c hc
  constructor
  · intro u c' hrun
    obtain ⟨a, hfirst⟩ := EStateM.discard_eq_ok hrun
    exact hok a c' hfirst
  · intro e c' hrun
    exact herror e c' (EStateM.map_eq_error_iff.mp hrun)

/-- What holds however an action ends holds after it. -/
theorem after (h : x.Meets P (fun _ => P') (fun _ => P')) {c : Client σ} (hc : P c.memory) :
    P' (x.after c).memory := by
  obtain ⟨hok, herror⟩ := h c hc
  cases hrun : x c with
  | ok a c' =>
    rw [after_of_ok hrun]
    exact hok a c' hrun
  | error e c' =>
    rw [after_of_error hrun]
    exact herror e c' hrun

/-- The memory that an action starts from may be named. -/
theorem named (h : ∀ before, P before → x.Meets (· = before) Q E) : x.Meets P Q E :=
  fun c hc => h c.memory hc c rfl

/-- What is known to exist before may be named, too. -/
theorem elim {ι : Type} {P : ι → Memory → Prop} (h : ∀ i, x.Meets (P i) Q E) :
    x.Meets (fun m => ∃ i, P i m) Q E := by
  rintro c ⟨i, hc⟩
  exact h i c hc

/-! ### Single deeds -/

theorem pure {a : α} (h : ∀ m, P m → Q a m) : (Pure.pure a : Action σ α).Meets P Q E := by
  intro c hc
  constructor
  · intro b c' hrun
    cases hrun
    exact h _ hc
  · intro e c' hrun
    cases hrun

theorem throw {e : ClientError} (h : ∀ m, P m → E e m) :
    (MonadExcept.throw e : Action σ α).Meets P Q E := by
  intro c hc
  constructor
  · intro b c' hrun
    cases hrun
  · intro e' c' hrun
    cases hrun
    exact h _ hc

theorem ofExcept {r : Except ClientError α} (hok : ∀ a, r = .ok a → ∀ m, P m → Q a m)
    (herror : ∀ e, r = .error e → ∀ m, P m → E e m) :
    (Action.ofExcept r : Action σ α).Meets P Q E := by
  cases r with
  | ok a => exact pure (hok a rfl)
  | error e => exact throw (herror e rfl)

/-- What the client remembers is looked at. -/
theorem memory : (Action.memory : Action σ Memory).Meets P (fun m m' => m = m' ∧ P m') E := by
  intro c hc
  constructor
  · intro m c' hrun
    cases hrun
    exact ⟨rfl, hc⟩
  · intro e c' hrun
    cases hrun

theorem modifyMemory {f : Memory → α × Memory} (h : ∀ m, P m → Q (f m).1 (f m).2) :
    (Action.modifyMemory f : Action σ α).Meets P Q E := by
  intro c hc
  constructor
  · intro a c' hrun
    cases hrun
    exact h _ hc
  · intro e c' hrun
    cases hrun

theorem update {f : Memory → Memory} {Q : Unit → Memory → Prop} (h : ∀ m, P m → Q () (f m)) :
    (Action.update f : Action σ Unit).Meets P Q E :=
  modifyMemory h

end Action.Meets

end TrafficControl
