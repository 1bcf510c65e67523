import TrafficControl.Proofs.Sequencing
import TrafficControl.Query.Batch

/-!
# How actions end

An action ends with a client whether it succeeds or fails. `Action.after` is that client, and
`Action.Leaves R` says that the memory after an action stands in the relation `R` to the memory
before it, however the action ends. The relations of interest are reflexive and transitive, so they
pass from the parts of an action to the whole (`Leaves.bind`).

* `of_succeedsWith`, `of_failsWith`: the outcome and the client of an action that passes a test.
* `dispatch_cellsOnly`: a batch changes nothing but what is remembered about queries.
-/

namespace TrafficControl

/-! ### Memories that differ in cells only -/

/-- Nothing but what is remembered about queries has changed. -/
def Memory.SameButCells (m m' : Memory) : Prop := m' = { m with cells := m'.cells }

namespace Memory.SameButCells

theorem refl (m : Memory) : SameButCells m m := rfl

theorem trans {m₁ m₂ m₃ : Memory} (h : SameButCells m₁ m₂) (h' : SameButCells m₂ m₃) :
    SameButCells m₁ m₃ := by
  unfold SameButCells at h h' ⊢
  rw [h', h]

theorem mapCells (f : Cells → Cells) (m : Memory) : SameButCells m (m.mapCells f) := rfl

variable {m m' : Memory} (h : SameButCells m m')

include h

theorem vehicle_eq (v : Handle) : m'.vehicle v = m.vehicle v := by
  unfold SameButCells at h
  rw [h]
  rfl

theorem nextHandle_eq : m'.nextHandle = m.nextHandle := by
  unfold SameButCells at h
  rw [h]

theorem holding_eq (r : Handle) : m'.holding r = m.holding r := by
  unfold SameButCells at h
  rw [h]
  rfl

end Memory.SameButCells

namespace Action

variable {σ α β : Type}

/-! ### Tests of an action -/

/-- Whether an action succeeds with a result and a client that pass a test. -/
def succeedsWith (x : Action σ α) (test : α → Client σ → Bool) (c : Client σ) : Bool :=
  match x c with
  | .ok a c' => test a c'
  | .error _ _ => false

theorem of_succeedsWith {x : Action σ α} {test : α → Client σ → Bool} {c : Client σ}
    (h : x.succeedsWith test c = true) : ∃ a c', x c = .ok a c' ∧ test a c' = true := by
  unfold succeedsWith at h
  split at h
  · next a c' hx => exact ⟨a, c', hx, h⟩
  · cases h

/-- Whether an action fails with a failure and a client that pass a test. -/
def failsWith (x : Action σ α) (test : ClientError → Client σ → Bool) (c : Client σ) : Bool :=
  match x c with
  | .ok _ _ => false
  | .error e c' => test e c'

theorem of_failsWith {x : Action σ α} {test : ClientError → Client σ → Bool} {c : Client σ}
    (h : x.failsWith test c = true) : ∃ e c', x c = .error e c' ∧ test e c' = true := by
  unfold failsWith at h
  split at h
  · cases h
  · next e c' hx => exact ⟨e, c', hx, h⟩

/-! ### The client after an action -/

/-- The client that an action leaves, however it ends. -/
def after (x : Action σ α) (c : Client σ) : Client σ :=
  match x c with
  | .ok _ c' => c'
  | .error _ c' => c'

theorem after_of_ok {x : Action σ α} {c c' : Client σ} {a : α} (h : x c = .ok a c') :
    x.after c = c' := by
  unfold after
  rw [h]

theorem after_of_error {x : Action σ α} {c c' : Client σ} {e : ClientError}
    (h : x c = .error e c') : x.after c = c' := by
  unfold after
  rw [h]

/-- However an action ends, the memory after it stands in a relation to the memory before it. -/
def Leaves (R : Memory → Memory → Prop) (x : Action σ α) : Prop :=
  ∀ c, R c.memory (x.after c).memory

namespace Leaves

variable {R : Memory → Memory → Prop} {x : Action σ α} {c c' : Client σ}

theorem of_ok {a : α} (hx : x.Leaves R) (h : x c = .ok a c') : R c.memory c'.memory := by
  have := hx c
  rwa [after_of_ok h] at this

theorem of_error {e : ClientError} (hx : x.Leaves R) (h : x c = .error e c') :
    R c.memory c'.memory := by
  have := hx c
  rwa [after_of_error h] at this

theorem bind (trans : ∀ m₁ m₂ m₃, R m₁ m₂ → R m₂ m₃ → R m₁ m₃) {f : α → Action σ β}
    (hx : x.Leaves R) (hf : ∀ a, (f a).Leaves R) : (x >>= f).Leaves R := by
  intro c
  rcases h : x c with ⟨a, c₁⟩ | ⟨e, c₁⟩
  · have hlast : (x >>= f).after c = (f a).after c₁ := by
      unfold after
      rw [EStateM.bind_of_ok h]
    rw [hlast]
    exact trans _ _ _ (hx.of_ok h) (hf a c₁)
  · rw [after_of_error (EStateM.bind_of_error h)]
    exact hx.of_error h

theorem mono {R' : Memory → Memory → Prop} (hx : x.Leaves R) (h : ∀ m m', R m m' → R' m m') :
    x.Leaves R' := fun c => h _ _ (hx c)

theorem map (f : α → β) (hx : x.Leaves R) : (f <$> x).Leaves R := by
  intro c
  have hlast : (f <$> x).after c = x.after c := by
    show after (EStateM.map f x) c = _
    unfold after EStateM.map
    cases x c <;> rfl
  rw [hlast]
  exact hx c

theorem discard (hx : x.Leaves R) : (Functor.discard x : Action σ PUnit).Leaves R :=
  map (Function.const α PUnit.unit) hx

end Leaves

/-! ### What changes nothing but cells -/

/-- An action that changes nothing but what is remembered about queries. -/
abbrev CellsOnly (x : Action σ α) : Prop := x.Leaves Memory.SameButCells

namespace CellsOnly

theorem bind {x : Action σ α} {f : α → Action σ β} (hx : x.CellsOnly)
    (hf : ∀ a, (f a).CellsOnly) : (x >>= f).CellsOnly :=
  Leaves.bind (R := Memory.SameButCells) (fun _ _ _ => Memory.SameButCells.trans) hx hf

theorem pure (a : α) : (Pure.pure a : Action σ α).CellsOnly := fun _ => rfl

theorem throw (e : ClientError) : (MonadExcept.throw e : Action σ α).CellsOnly := fun _ => rfl

theorem ofExcept (r : Except ClientError α) : (Action.ofExcept r : Action σ α).CellsOnly := by
  cases r
  · exact throw _
  · exact pure _

theorem framed (r : Except FrameError α) : (Action.framed r : Action σ α).CellsOnly := by
  cases r
  · exact throw _
  · exact pure _

theorem memory : (Action.memory : Action σ Memory).CellsOnly := fun _ => rfl

theorem updateCells (f : Cells → Cells) : (Action.updateCells f : Action σ Unit).CellsOnly :=
  fun _ => rfl

theorem map (f : α → β) {x : Action σ α} (hx : x.CellsOnly) : (f <$> x).CellsOnly :=
  Leaves.map f hx

theorem transact [Link σ] (request : Bytes) : (Action.transact request : Action σ Bytes).CellsOnly := by
  intro c
  unfold after Action.transact
  cases Link.transact request c.link <;> rfl

theorem roundTrip [Link σ] (request : Bytes) :
    (Action.roundTrip request : Action σ Bytes).CellsOnly :=
  bind (transact request) fun reply => bind (x := modify _) (fun _ => rfl) fun _ => pure reply

theorem consume (batch : List (Query × Nat)) (containers : List Container) :
    (Action.consume batch containers : Action σ Unit).CellsOnly := by
  intro c
  unfold after Action.consume
  cases consumeAll batch { pending := containers, cells := c.memory.cells } <;> rfl

end CellsOnly

theorem dispatch_cellsOnly [Link σ] (queries : List Query) :
    (Action.dispatch queries : Action σ Unit).CellsOnly := by
  refine CellsOnly.bind CellsOnly.memory fun m => CellsOnly.bind (CellsOnly.ofExcept _) fun requests => ?_
  dsimp only
  split
  · exact CellsOnly.pure _
  · refine CellsOnly.bind (CellsOnly.framed _) fun frame => ?_
    refine CellsOnly.bind (CellsOnly.roundTrip frame) fun reply => ?_
    exact CellsOnly.bind (CellsOnly.ofExcept _) fun containers => CellsOnly.consume _ _

end Action

namespace ReadQuery

open TrafficControl.Action

variable {σ : Type} [Link σ]

theorem get_cellsOnly (q : ReadQuery) : (q.get : Action σ Value).CellsOnly := by
  refine CellsOnly.bind CellsOnly.memory fun m => ?_
  split
  · exact CellsOnly.pure _
  · refine CellsOnly.bind (dispatch_cellsOnly _) fun _ => CellsOnly.bind CellsOnly.memory fun m => ?_
    split
    · exact CellsOnly.pure _
    · exact CellsOnly.throw _

theorem getAs_cellsOnly (α : Type) [Readable α] (q : ReadQuery) :
    (q.getAs α : Action σ α).CellsOnly :=
  CellsOnly.bind q.get_cellsOnly fun _ => CellsOnly.ofExcept _

end ReadQuery

end TrafficControl
