/-!
# The parts of a computation

Readers, transfers, consumers and actions are computations that keep a state and end with a result or
a failure. How a composed computation ends is known from how its parts end.
-/

namespace EStateM

variable {ε σ α β : Type} {x : EStateM ε σ α} {f : α → EStateM ε σ β} {s s₁ s' : σ}

theorem bind_of_ok {a : α} (h : x s = .ok a s₁) : (x >>= f) s = f a s₁ := by
  show EStateM.bind x f s = _
  unfold EStateM.bind
  rw [h]

theorem bind_of_error {e : ε} (h : x s = .error e s₁) : (x >>= f) s = .error e s₁ := by
  show EStateM.bind x f s = _
  unfold EStateM.bind
  rw [h]

theorem map_of_ok (f : α → β) {a : α} (h : x s = .ok a s₁) : (f <$> x) s = .ok (f a) s₁ := by
  show EStateM.map f x s = _
  unfold EStateM.map
  rw [h]

/-- A composed computation succeeds when both of its parts do. -/
theorem bind_eq_ok_iff {b : β} :
    (x >>= f) s = .ok b s' ↔ ∃ a s₁, x s = .ok a s₁ ∧ f a s₁ = .ok b s' := by
  constructor
  · intro h
    rcases hx : x s with ⟨a, s₁⟩ | ⟨e, s₁⟩
    · exact ⟨a, s₁, rfl, by rwa [bind_of_ok hx] at h⟩
    · rw [bind_of_error hx] at h
      cases h
  · rintro ⟨a, s₁, hx, hf⟩
    rw [bind_of_ok hx, hf]

/-- A composed computation fails when its first part does, or its second part after the first. -/
theorem bind_eq_error_iff {e : ε} :
    (x >>= f) s = .error e s' ↔
      x s = .error e s' ∨ ∃ a s₁, x s = .ok a s₁ ∧ f a s₁ = .error e s' := by
  constructor
  · intro h
    rcases hx : x s with ⟨a, s₁⟩ | ⟨e₁, s₁⟩
    · exact Or.inr ⟨a, s₁, rfl, by rwa [bind_of_ok hx] at h⟩
    · rw [bind_of_error hx] at h
      cases h
      exact Or.inl rfl
  · rintro (hx | ⟨a, s₁, hx, hf⟩)
    · exact bind_of_error hx
    · rw [bind_of_ok hx, hf]

theorem map_eq_ok_iff {g : α → β} {b : β} :
    (g <$> x) s = .ok b s' ↔ ∃ a, x s = .ok a s' ∧ g a = b := by
  constructor
  · intro h
    replace h : EStateM.map g x s = .ok b s' := h
    unfold EStateM.map at h
    split at h
    · next a s₁ hx =>
      cases h
      exact ⟨a, hx, rfl⟩
    · cases h
  · rintro ⟨a, hx, rfl⟩
    exact map_of_ok g hx

theorem map_eq_error_iff {g : α → β} {e : ε} : (g <$> x) s = .error e s' ↔ x s = .error e s' := by
  show EStateM.map g x s = .error e s' ↔ _
  unfold EStateM.map
  cases x s <;> simp

theorem discard_eq_ok {u : PUnit} (h : (discard x) s = .ok u s') : ∃ a, x s = .ok a s' := by
  replace h : EStateM.map (Function.const α PUnit.unit) x s = .ok u s' := h
  unfold EStateM.map at h
  split at h
  · next a s₁ hx =>
    cases h
    exact ⟨a, hx⟩
  · cases h

/-- The state that a computation leaves, however it ends. -/
def Result.final : Result ε σ α → σ
  | .ok _ s => s
  | .error _ s => s

/-! ### Failures of one kind -/

/-- Whatever a computation fails with is of one kind. -/
def FailsOnly (x : EStateM ε σ α) (P : ε → Prop) : Prop := ∀ s e s', x s = .error e s' → P e

namespace FailsOnly

variable {P : ε → Prop}

theorem pure (a : α) : (Pure.pure a : EStateM ε σ α).FailsOnly P := by
  intro s e s' h
  cases h

theorem get : (MonadState.get : EStateM ε σ σ).FailsOnly P := by
  intro s e s' h
  cases h

theorem throw {e : ε} (he : P e) : (MonadExcept.throw e : EStateM ε σ α).FailsOnly P := by
  intro s e' s' h
  cases h
  exact he

theorem bind (hx : x.FailsOnly P) (hf : ∀ a, (f a).FailsOnly P) : (x >>= f).FailsOnly P := by
  intro s e s' h
  rcases bind_eq_error_iff.mp h with hfirst | ⟨a, s₁, -, hrest⟩
  · exact hx s e s' hfirst
  · exact hf a s₁ e s' hrest

theorem map (g : α → β) (hx : x.FailsOnly P) : (g <$> x).FailsOnly P :=
  fun s e s' h => hx s e s' (map_eq_error_iff.mp h)

end FailsOnly

end EStateM

namespace Except

variable {ε α β : Type} {x : Except ε α} {f : α → β}

theorem map_eq_ok_iff {b : β} : x.map f = .ok b ↔ ∃ a, x = .ok a ∧ f a = b := by
  cases x <;> simp [Except.map]

theorem map_eq_error_iff {e : ε} : x.map f = .error e ↔ x = .error e := by
  cases x <;> simp [Except.map]

end Except
