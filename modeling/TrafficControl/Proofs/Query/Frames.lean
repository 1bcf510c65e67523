import TrafficControl.Proofs.Client.Triple
import TrafficControl.Proofs.Query.Inversion

/-!
# What queries leave alone

What every query of a batch keeps, whatever it makes of its answer, the batch keeps, and it does not
matter whether the batch succeeds. In particular, a batch of reads of one object leaves alone what is
remembered of the others (`Memory.SameButOwned`).

* `Action.dispatch_keeps`, `ReadQuery.getAs_keeps`: batches and single reads.
* `Query.StaysWith.frames`: what a query of one object touches.
-/

namespace TrafficControl

variable {σ : Type} {J : Memory → Prop}

/-! ### What queries keep -/

/-- Whatever the query makes of an answer keeps `J`. -/
def Query.Keeps (J : Memory → Prop) (q : Query) : Prop :=
  ∀ container e, q.effectOf container = .ok e → ∀ m : Memory, J m → J (m.mapCells e.apply)

variable [Link σ]

/-- What its queries keep, a batch keeps, whether it succeeds or not. -/
theorem Action.dispatch_keeps {queries : List Query} (hlib : ∀ q ∈ queries, q.BuiltIn)
    (hkeeps : ∀ q ∈ queries, q.Keeps J) :
    (Action.dispatch queries : Action σ Unit).Meets J (fun _ => J) (fun _ => J) := by
  intro c hc
  have hall : ∀ {taken : List Query} {containers : List Container} {effects : List Effect},
      (∀ q ∈ taken, q.Keeps J) → Takes taken containers effects →
        J { c.memory with cells := Effect.applyAll effects c.memory.cells } := by
    intro taken containers effects htaken htakes
    exact htakes.induction (P := fun cells => J { c.memory with cells })
      (fun q hq container e he cells hcells =>
        htaken q hq container e he { c.memory with cells } hcells) hc
  constructor
  · intro _ c' h
    obtain ⟨containers, effects, htakes, hmemory⟩ := dispatch_eq_ok hlib h
    rw [hmemory]
    exact hall hkeeps htakes
  · intro e c' h
    have hfail := dispatch_eq_error hlib h
    generalize c'.memory = m at hfail ⊢
    cases hfail with
    | unsent | lost | rejected => exact hc
    | stuck hsplit htakes =>
      exact hall (fun q hq => hkeeps q (hsplit ▸ List.mem_append_left _ hq)) htakes

variable {q : ReadQuery} (hkeeps : (Query.read q).Keeps J)

include hkeeps

theorem ReadQuery.get_keeps : (q.get : Action σ Value).Meets J (fun _ => J) (fun _ => J) := by
  refine .bind .memory fun m => ?_
  split
  · exact .pure fun _ hm => hm.2
  · have hdispatch : (Action.dispatch [.read q] : Action σ Unit).Meets J (fun _ => J) (fun _ => J) := by
      refine Action.dispatch_keeps ?_ (List.forall_mem_singleton.mpr hkeeps)
      rw [List.forall_mem_singleton]
      trivial
    refine .bind (hdispatch.mono (fun _ hm => hm.2) (fun _ _ => id) fun _ _ => id) fun _ =>
      .bind .memory fun m => ?_
    split
    · exact .pure fun _ hm => hm.2
    · exact .throw fun _ hm => hm.2

theorem ReadQuery.getAs_keeps (α : Type) [Readable α] :
    (q.getAs α : Action σ α).Meets J (fun _ => J) (fun _ => J) :=
  .bind (ReadQuery.get_keeps hkeeps) fun _ => .ofExcept (fun _ _ _ hm => hm) fun _ _ _ hm => hm

omit hkeeps [Link σ]

/-! ### What queries of one object touch -/

/-- Nothing is remembered anew but answers of one object, and those do not matter to parameters and
versions. -/
structure Memory.SameButOwned (owner : Handle) (m m' : Memory) : Prop where
  same : SameButCells m m'
  cached : ∀ c : Cell, c.owner ≠ owner → m'.cells.cached[c]? = m.cells.cached[c]?
  parameters : m'.cells.parameters = m.cells.parameters
  versions : m'.cells.versions = m.cells.versions

theorem Memory.SameButOwned.refl (owner : Handle) (m : Memory) : SameButOwned owner m m :=
  ⟨.refl m, fun _ _ => rfl, rfl, rfl⟩

/-- The query is a read of the object, or a step. -/
def Query.StaysWith (owner : Handle) : Query → Prop
  | .read q => q.cell.owner = owner
  | .step _ => True
  | _ => False

/-- A query that stays with an object touches nothing but answers of the object. -/
theorem Query.StaysWith.frames {owner : Handle} {q : Query} (h : q.StaysWith owner) (before : Memory) :
    q.Keeps (before.SameButOwned owner) := by
  intro container e he m hm
  cases q with
  | read q =>
    obtain ⟨v, rfl, -⟩ := Query.effectOf_read_eq_ok he
    refine ⟨hm.same.trans (.mapCells _ m), fun c hc => ?_, hm.parameters, hm.versions⟩
    show (m.cells.keep q.cell v).cached[c]? = _
    rw [Cells.cached_keep, if_neg, hm.cached c hc]
    rintro rfl
    exact hc h
  | step cell =>
    unfold Query.effectOf at he
    dsimp only at he
    split at he
    · cases he
      exact ⟨hm.same.trans (.mapCells _ m), hm.cached, hm.parameters, hm.versions⟩
    · cases he
  | change | version | close | raw => exact h.elim

end TrafficControl
