import TrafficControl.Proofs.Bytes.Takes

/-!
# Loops over the bytes that are left

A reader that takes something whenever it succeeds (`Reader.Shrinks`) succeeds no more often than there are
bytes. A counted list of more elements than bytes are left therefore fails, and in the same way whatever
the count is (`times_of_remaining_lt`). A loop up to the end of the bytes ends after no more rounds than
there are bytes, whatever would have been done in a further round (`untilEndOnto_eq_rounds`).
-/

namespace TrafficControl

namespace Reader

variable {α ι : Type} {r : Reader α}

/-- A reader that succeeds leaves fewer bytes than it found. -/
def Shrinks (r : Reader α) : Prop :=
  ∀ ⦃c c' : Cursor⦄ ⦃a : α⦄, r c = .ok a c' → c'.remaining < c.remaining

theorem SpelledBy.shrinks {value : ι → α} {write : ι → Emission} (hr : r.SpelledBy value write)
    (hne : ∀ i, (write i).stopped = none → (write i).bytes ≠ []) : r.Shrinks := by
  intro c c' a h
  obtain ⟨i, -, hpass⟩ := hr h
  have hpos := List.length_pos_iff.mpr (hne i hpass.complete)
  rw [hpass.remaining_eq]
  exact Nat.lt_add_of_pos_left hpos

theorem Takes.shrinks {write : α → Emission} (hr : r.Takes write)
    (hne : ∀ a, (write a).stopped = none → (write a).bytes ≠ []) : r.Shrinks :=
  hr.spelledBy.shrinks hne

/-- A text takes at least its count. -/
theorem text_shrinks : text.Shrinks := by
  refine takes_text.shrinks fun s hs => ?_
  rw [Emission.text_of_lt (Emission.text_stopped_iff.mp hs)]
  exact List.append_ne_nil_of_left_ne_nil (List.cons_ne_nil _ _) _

/-! ### Counted lists -/

theorem timesOnto_of_remaining_lt (hr : r.Shrinks) (c : Cursor) (done : List α) :
    ∃ e c', ∀ n, c.remaining < n → timesOnto r n done c = .error e c' := by
  induction hk : c.remaining using Nat.strongRecOn generalizing c done with
  | ind k ih =>
    subst hk
    rcases ha : r c with ⟨a, c₁⟩ | ⟨e, c₁⟩
    · have hless := hr ha
      obtain ⟨e, c', herror⟩ := ih c₁.remaining hless c₁ (a :: done) rfl
      refine ⟨e, c', fun n hn => ?_⟩
      obtain ⟨n, rfl⟩ : ∃ m, n = m + 1 := ⟨n - 1, by omega⟩
      rw [timesOnto, EStateM.bind_of_ok ha]
      exact herror n (by omega)
    · refine ⟨e, c₁, fun n hn => ?_⟩
      obtain ⟨n, rfl⟩ : ∃ m, n = m + 1 := ⟨n - 1, by omega⟩
      rw [timesOnto, EStateM.bind_of_error ha]

/-- A list of more elements than bytes are left fails, however many elements were announced. -/
theorem times_of_remaining_lt (hr : r.Shrinks) (c : Cursor) :
    ∃ e c', ∀ n, c.remaining < n → times r n c = .error e c' :=
  timesOnto_of_remaining_lt hr c []

/-- Whatever count was announced, a list makes one attempt for each byte that is left and one more at
most. -/
theorem times_eq_min (hr : r.Shrinks) (n : Nat) (c : Cursor) :
    times r n c = times r (min n (c.remaining + 1)) c := by
  obtain ⟨e, c', herror⟩ := times_of_remaining_lt hr c
  rcases Nat.lt_or_ge c.remaining n with hlt | hle
  · rw [Nat.min_eq_right hlt, herror n hlt, herror _ (Nat.lt_succ_self _)]
  · rw [Nat.min_eq_left (Nat.le_succ_of_le hle)]

theorem timesOnto_of_element_error {m n : Nat} {done items : List α} {c c₁ c₂ : Cursor} {e : FrameError}
    (hlt : m < n) (hitems : timesOnto r m done c = .ok items c₁) (h : r c₁ = .error e c₂) :
    timesOnto r n done c = .error e c₂ := by
  induction m generalizing n done c with
  | zero =>
    cases hitems
    obtain ⟨n, rfl⟩ : ∃ k, n = k + 1 := ⟨n - 1, by omega⟩
    rw [timesOnto, EStateM.bind_of_error h]
  | succ m ih =>
    obtain ⟨a, c₃, ha, hitems⟩ := EStateM.bind_eq_ok_iff.mp hitems
    obtain ⟨n, rfl⟩ : ∃ k, n = k + 1 := ⟨n - 1, by omega⟩
    rw [timesOnto, EStateM.bind_of_ok ha]
    exact ih (Nat.lt_of_succ_lt_succ hlt) hitems

/-- An element that cannot be read is what is wrong with the list. -/
theorem times_of_element_error {m n : Nat} {items : List α} {c c₁ c₂ : Cursor} {e : FrameError}
    (hlt : m < n) (hitems : times r m c = .ok items c₁) (h : r c₁ = .error e c₂) :
    times r n c = .error e c₂ :=
  timesOnto_of_element_error hlt hitems h

/-! ### Lists up to the end -/

/-- One round of the loop up to the end of the bytes; `again` does the further rounds. -/
def turn (r : Reader α) (again : List α → Reader (List α)) (done : List α) : Reader (List α) := do
  let c ← get
  if c.rest.isEmpty then pure done.reverse
  else
    let a ← r
    again (a :: done)

theorem turn_of_nil {again : List α → Reader (List α)} (done : List α) (pos : Nat) :
    turn r again done ⟨[], pos⟩ = .ok done.reverse ⟨[], pos⟩ := rfl

theorem turn_of_ne_nil {again : List α → Reader (List α)} {rest : Bytes} (hrest : rest ≠ [])
    (done : List α) (pos : Nat) :
    turn r again done ⟨rest, pos⟩ = (r >>= fun a => again (a :: done)) ⟨rest, pos⟩ := by
  have hempty : rest.isEmpty = false := List.isEmpty_eq_false_iff.mpr hrest
  rw [turn, EStateM.bind_of_ok (x := MonadState.get) rfl]
  exact congrFun (if_neg (by rw [hempty]; exact Bool.false_ne_true)) _

/-- The loop ends by itself: one round for each byte that is left and one more to see that none is left
are enough, and `again` is never come to. -/
theorem untilEndOnto_eq_rounds (hr : r.Shrinks) {fuel n : Nat} {c : Cursor} (hfuel : c.remaining ≤ fuel)
    (hn : c.remaining ≤ n) (again : List α → Reader (List α)) (done : List α) :
    untilEndOnto r fuel done c = Nat.repeat (turn r) (n + 1) again done c := by
  induction fuel generalizing n c done with
  | zero =>
    obtain ⟨rest, pos⟩ := c
    obtain rfl := List.length_eq_zero_iff.mp (Nat.le_zero.mp hfuel)
    exact (turn_of_nil done pos).symm
  | succ fuel ih =>
    obtain ⟨rest, pos⟩ := c
    by_cases hrest : rest = []
    · subst hrest
      exact (turn_of_nil done pos).symm
    · rw [untilEndOnto_of_ne_nil hrest, Nat.repeat, turn_of_ne_nil hrest]
      rcases ha : r ⟨rest, pos⟩ with ⟨a, c₁⟩ | ⟨e, c₁⟩
      · have hless := hr ha
        obtain ⟨n, rfl⟩ : ∃ m, n = m + 1 := ⟨n - 1, by omega⟩
        rw [EStateM.bind_of_ok ha, EStateM.bind_of_ok ha]
        exact ih (by omega) (by omega) (a :: done)
      · rw [EStateM.bind_of_error ha, EStateM.bind_of_error ha]

theorem untilEndOnto_of_element_error (hr : r.Shrinks) {m fuel : Nat} {done items : List α}
    {c c₁ c₂ : Cursor} {e : FrameError} (hfuel : c.remaining ≤ fuel)
    (hitems : timesOnto r m done c = .ok items c₁) (hleft : c₁.rest ≠ []) (h : r c₁ = .error e c₂) :
    untilEndOnto r fuel done c = .error e c₂ := by
  induction m generalizing fuel done c with
  | zero =>
    cases hitems
    obtain ⟨rest, pos⟩ := c₁
    have hpos : 0 < (Cursor.mk rest pos).remaining := List.length_pos_iff.mpr hleft
    obtain ⟨fuel, rfl⟩ : ∃ k, fuel = k + 1 := ⟨fuel - 1, by omega⟩
    rw [untilEndOnto_of_ne_nil hleft, EStateM.bind_of_error h]
  | succ m ih =>
    obtain ⟨a, c₃, ha, htail⟩ := EStateM.bind_eq_ok_iff.mp hitems
    have hless := hr ha
    obtain ⟨rest, pos⟩ := c
    have hrest : rest ≠ [] := by
      rintro rfl
      exact absurd hless (Nat.not_lt_zero _)
    obtain ⟨fuel, rfl⟩ : ∃ k, fuel = k + 1 := ⟨fuel - 1, by omega⟩
    rw [untilEndOnto_of_ne_nil hrest, EStateM.bind_of_ok ha]
    exact ih (by omega) htail

/-- An element that cannot be read is what is wrong with a list up to the end of the bytes. -/
theorem untilEnd_of_element_error (hr : r.Shrinks) {m : Nat} {items : List α} {c c₁ c₂ : Cursor}
    {e : FrameError} (hitems : times r m c = .ok items c₁) (hleft : c₁.rest ≠ [])
    (h : r c₁ = .error e c₂) : untilEnd r c = .error e c₂ := by
  rw [untilEnd, EStateM.bind_of_ok (x := MonadState.get) rfl]
  exact untilEndOnto_of_element_error hr (Nat.le_refl _) hitems hleft h

end Reader

end TrafficControl
