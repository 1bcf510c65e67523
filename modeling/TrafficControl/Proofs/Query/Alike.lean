import TrafficControl.Proofs.Query.Frames
import TrafficControl.Proofs.Query.Verdict

/-!
# What one object alone remembers

Two memories are alike beyond an object if all that distinguishes them are the answers that this object
has got and the times that its steps have asked for. Queries of the object change nothing else, so that a
memory before a batch of theirs and the memory after it are alike beyond the object, whether the batch
succeeds or not. What is asked does not depend on the answers that are remembered; hence the same batch
ends in the same way from memories that are alike.

* `Query.OwnedBy.keeps`: what queries of an object touch.
* `AgreeBeyond`: two actions that end in the same way, and leave memories that are alike.
* `dispatch_then_agree`: a batch and what is made of its answers.
-/

namespace TrafficControl

/-! ### Memories that are alike -/

/-- What is remembered about queries is the same, but for the answers of one object and the times that
its steps ask for. -/
structure Cells.AlikeBeyond (owner : Handle) (a b : Cells) : Prop where
  cached : ∀ c : Cell, c.owner ≠ owner → a.cached[c]? = b.cached[c]?
  targets : ∀ c : Cell, c.owner ≠ owner → a.targets[c]? = b.targets[c]?
  answers : ∀ c : Cell, c.owner ≠ owner → a.answers[c]? = b.answers[c]?
  parameters : a.parameters = b.parameters
  changes : a.changes = b.changes
  versions : a.versions = b.versions
  taken : a.taken = b.taken

/-- All that differs is what `Cells.AlikeBeyond` lets differ. -/
structure Memory.AlikeBeyond (owner : Handle) (m m' : Memory) : Prop where
  same : SameButCells m m'
  cells : m.cells.AlikeBeyond owner m'.cells

variable {σ α β : Type} {owner : Handle} {a b c : Cells} {m m' m₁ m₂ m₃ : Memory}

namespace Cells.AlikeBeyond

theorem refl (owner : Handle) (a : Cells) : a.AlikeBeyond owner a :=
  ⟨fun _ _ => rfl, fun _ _ => rfl, fun _ _ => rfl, rfl, rfl, rfl, rfl⟩

theorem symm (h : a.AlikeBeyond owner b) : b.AlikeBeyond owner a where
  cached x hx := (h.cached x hx).symm
  targets x hx := (h.targets x hx).symm
  answers x hx := (h.answers x hx).symm
  parameters := h.parameters.symm
  changes := h.changes.symm
  versions := h.versions.symm
  taken := h.taken.symm

theorem trans (h : a.AlikeBeyond owner b) (h' : b.AlikeBeyond owner c) : a.AlikeBeyond owner c where
  cached x hx := (h.cached x hx).trans (h'.cached x hx)
  targets x hx := (h.targets x hx).trans (h'.targets x hx)
  answers x hx := (h.answers x hx).trans (h'.answers x hx)
  parameters := h.parameters.trans h'.parameters
  changes := h.changes.trans h'.changes
  versions := h.versions.trans h'.versions
  taken := h.taken.trans h'.taken

theorem setTarget (h : a.AlikeBeyond owner b) (x : Cell) (time : Binary64) :
    (a.setTarget x time).AlikeBeyond owner (b.setTarget x time) where
  cached := h.cached
  targets y hy := by
    show (a.targets.insert x time)[y]? = (b.targets.insert x time)[y]?
    rw [Std.ExtTreeMap.getElem?_insert, Std.ExtTreeMap.getElem?_insert, h.targets y hy]
  answers := h.answers
  parameters := h.parameters
  changes := h.changes
  versions := h.versions
  taken := h.taken

theorem forgetAll (h : a.AlikeBeyond owner b) (cells : List Cell) :
    (a.forgetAll cells).AlikeBeyond owner (b.forgetAll cells) := by
  rw [Cells.forgetAll_eq a, Cells.forgetAll_eq b]
  refine ⟨fun x hx => ?_, h.targets, h.answers, h.parameters, h.changes, h.versions, h.taken⟩
  show (a.forgetAll cells).cached[x]? = (b.forgetAll cells).cached[x]?
  rw [Cells.cached_forgetAll, Cells.cached_forgetAll, h.cached x hx]

/-- The same answer leaves cells alike that were alike. -/
theorem apply (h : a.AlikeBeyond owner b) (e : Effect) :
    (e.apply a).AlikeBeyond owner (e.apply b) := by
  cases e with
  | kept x v =>
    refine ⟨fun y hy => ?_, h.targets, h.answers, h.parameters, h.changes, h.versions, h.taken⟩
    show (a.keep x v).cached[y]? = (b.keep x v).cached[y]?
    rw [Cells.cached_keep, Cells.cached_keep, h.cached y hy]
  | outdated cells => exact h.forgetAll cells
  | stepped x answers =>
    refine ⟨h.cached, h.targets, fun y hy => ?_, h.parameters, h.changes, h.versions, h.taken⟩
    show (a.answers.insert x answers)[y]? = (b.answers.insert x answers)[y]?
    rw [Std.ExtTreeMap.getElem?_insert, Std.ExtTreeMap.getElem?_insert, h.answers y hy]
  | identified x version =>
    refine ⟨h.cached, h.targets, h.answers, h.parameters, h.changes, ?_, h.taken⟩
    show a.versions.insert x version = b.versions.insert x version
    rw [h.versions]
  | nothing => exact h

theorem applyAll (h : a.AlikeBeyond owner b) (effects : List Effect) :
    (Effect.applyAll effects a).AlikeBeyond owner (Effect.applyAll effects b) := by
  induction effects generalizing a b with
  | nil => exact h
  | cons e effects ih => exact ih (h.apply e)

/-- The time that a step of the object asks for does not matter beyond the object. -/
theorem of_setTarget (a : Cells) (index : Nat) (time : Binary64) :
    a.AlikeBeyond owner (a.setTarget ⟨owner, index⟩ time) where
  cached _ _ := rfl
  targets x hx := by
    show a.targets[x]? = (a.targets.insert ⟨owner, index⟩ time)[x]?
    rw [Std.ExtTreeMap.getElem?_insert, if_neg]
    intro heq
    exact hx (congrArg Cell.owner (Std.LawfulEqCmp.compare_eq_iff_eq.mp heq)).symm
  answers _ _ := rfl
  parameters := rfl
  changes := rfl
  versions := rfl
  taken := rfl

end Cells.AlikeBeyond

namespace Memory.AlikeBeyond

theorem refl (owner : Handle) (m : Memory) : m.AlikeBeyond owner m := ⟨.refl m, .refl owner m.cells⟩

theorem symm (h : m.AlikeBeyond owner m') : m'.AlikeBeyond owner m := by
  obtain ⟨hsame, hcells⟩ := h
  refine ⟨?_, hcells.symm⟩
  unfold SameButCells at hsame ⊢
  rw [hsame]

theorem trans (h : m₁.AlikeBeyond owner m₂) (h' : m₂.AlikeBeyond owner m₃) :
    m₁.AlikeBeyond owner m₃ :=
  ⟨h.same.trans h'.same, h.cells.trans h'.cells⟩

/-- What does the same to cells that are alike does so to memories. -/
theorem mapCells (h : m.AlikeBeyond owner m') {f : Cells → Cells}
    (hf : (f m.cells).AlikeBeyond owner (f m'.cells)) :
    (m.mapCells f).AlikeBeyond owner (m'.mapCells f) := by
  obtain ⟨hsame, -⟩ := h
  refine ⟨?_, hf⟩
  unfold SameButCells at hsame ⊢
  rw [hsame]
  rfl

end Memory.AlikeBeyond

/-! ### What does not look -/

/-- What does not look at the answers of an object: it leaves memories alike that were alike. -/
def Memory.Blind (owner : Handle) (f : Memory → Memory) : Prop :=
  ∀ m m' : Memory, m.AlikeBeyond owner m' → (f m).AlikeBeyond owner (f m')

namespace Memory.Blind

theorem id (owner : Handle) : Memory.Blind owner fun m => m := fun _ _ h => h

theorem forgetAll (owner : Handle) (cells : List Cell) :
    Memory.Blind owner (Memory.mapCells (·.forgetAll cells)) :=
  fun _ _ h => h.mapCells (h.cells.forgetAll cells)

/-- What has nothing to do with queries. -/
theorem of_rest {f : Memory → Memory} (hrest : ∀ m g, f (m.mapCells g) = (f m).mapCells g) :
    Memory.Blind owner f := by
  rintro m m' ⟨hsame, halike⟩
  have hsame' : m' = m.mapCells fun _ => m'.cells := hsame
  have hcells : (f (m.mapCells fun _ => m.cells)).cells = m.cells := by rw [hrest]; rfl
  rw [hsame', hrest]
  refine ⟨.mapCells _ (f m), ?_⟩
  show (f (m.mapCells fun _ => m.cells)).cells.AlikeBeyond owner m'.cells
  rw [hcells]
  exact halike

theorem addLog (owner : Handle) (r : LogRecord) : Memory.Blind owner (Memory.addLog r) :=
  of_rest fun _ _ => rfl

theorem note (owner : Handle) (tag : String) (notice : Notice) :
    Memory.Blind owner (Memory.note tag notice) :=
  of_rest fun _ _ => rfl

theorem setVehicle (owner h : Handle) (r : VehicleRecord) :
    Memory.Blind owner (Memory.setVehicle h r) :=
  of_rest fun _ _ => rfl

end Memory.Blind

/-! ### Queries of one object -/

/-- The query is a read of the object, or a step that is the object's own. -/
def Query.OwnedBy (owner : Handle) : Query → Prop
  | .read q => q.cell.owner = owner
  | .step cell => cell.owner = owner
  | _ => False

/-- What a query of the object makes of its answer does not matter beyond the object. -/
theorem Query.OwnedBy.keeps {q : Query} (h : q.OwnedBy owner) (before : Memory) :
    q.Keeps (before.AlikeBeyond owner) := by
  intro container e he m hm
  refine hm.trans ⟨.mapCells _ m, ?_⟩
  cases q with
  | read q =>
    obtain ⟨v, rfl, -⟩ := Query.effectOf_read_eq_ok he
    refine ⟨fun c hc => ?_, fun _ _ => rfl, fun _ _ => rfl, rfl, rfl, rfl, rfl⟩
    show m.cells.cached[c]? = (m.cells.keep q.cell v).cached[c]?
    rw [Cells.cached_keep, if_neg]
    rintro rfl
    exact hc h
  | step cell =>
    rw [Query.effectOf] at he
    split at he
    · cases he
      refine ⟨fun _ _ => rfl, fun _ _ => rfl, fun c hc => ?_, rfl, rfl, rfl, rfl⟩
      show m.cells.answers[c]? = (m.cells.answers.insert cell _)[c]?
      rw [Std.ExtTreeMap.getElem?_insert, if_neg]
      intro heq
      exact hc ((congrArg Cell.owner (Std.LawfulEqCmp.compare_eq_iff_eq.mp heq)).symm.trans h)
    · cases he
  | change | version | close | raw => exact h.elim

/-- What is asked depends on the parameters and on the values of changes and on the times of steps. -/
theorem Query.requests_congr {q : Query} (hparameters : a.parameters = b.parameters)
    (hchanges : a.changes = b.changes) (htargets : ∀ cell, q = .step cell → a.target cell = b.target cell) :
    q.requests a = q.requests b := by
  cases q with
  | read q =>
    show (q.request a).map _ = (q.request b).map _
    unfold ReadQuery.request
    rw [hparameters]
  | change q =>
    show (q.request a).map _ = (q.request b).map _
    unfold ChangeQuery.request
    rw [hchanges]
  | step cell =>
    rw [Query.requests, Query.requests, htargets cell rfl]
  | version | close | raw => rfl

theorem batchRequests_congr {queries : List Query}
    (h : ∀ q ∈ queries, q.requests a = q.requests b) :
    batchRequests a queries = batchRequests b queries := by
  induction queries with
  | nil => rfl
  | cons q queries ih =>
    obtain ⟨hq, hqueries⟩ := List.forall_mem_cons.mp h
    rw [batchRequests_cons, batchRequests_cons, hq, ih hqueries]

/-! ### Actions that agree -/

/-- Two actions end in the same way, with the same link, and leave memories that are alike beyond an
object. -/
inductive AgreeBeyond (owner : Handle) :
    EStateM.Result ClientError (Client σ) α → EStateM.Result ClientError (Client σ) α → Prop
  | ok (a : α) {c c' : Client σ} (link : c.link = c'.link)
      (memory : c.memory.AlikeBeyond owner c'.memory) : AgreeBeyond owner (.ok a c) (.ok a c')
  | error (e : ClientError) {c c' : Client σ} (link : c.link = c'.link)
      (memory : c.memory.AlikeBeyond owner c'.memory) : AgreeBeyond owner (.error e c) (.error e c')

namespace AgreeBeyond

variable {c c' : Client σ}

theorem bind {x : Action σ α} {f : α → Action σ β} (hx : AgreeBeyond owner (x c) (x c'))
    (hf : ∀ a (c₁ c₁' : Client σ), c₁.link = c₁'.link → c₁.memory.AlikeBeyond owner c₁'.memory →
      AgreeBeyond owner (f a c₁) (f a c₁')) :
    AgreeBeyond owner ((x >>= f) c) ((x >>= f) c') := by
  generalize hr : x c = r at hx
  generalize hr' : x c' = r' at hx
  cases hx with
  | ok a link memory =>
    rw [EStateM.bind_of_ok hr, EStateM.bind_of_ok hr']
    exact hf a _ _ link memory
  | error e link memory =>
    rw [EStateM.bind_of_error hr, EStateM.bind_of_error hr']
    exact .error e link memory

variable (hlink : c.link = c'.link) (hmemory : c.memory.AlikeBeyond owner c'.memory)

include hlink

theorem modifyMemory {f : Memory → α × Memory} (hresult : (f c.memory).1 = (f c'.memory).1)
    (hafter : (f c.memory).2.AlikeBeyond owner (f c'.memory).2) :
    AgreeBeyond owner ((Action.modifyMemory f : Action σ α) c) (Action.modifyMemory f c') := by
  have h : AgreeBeyond owner (.ok (f c.memory).1 { c with memory := (f c.memory).2 })
      (.ok (f c'.memory).1 { c' with memory := (f c'.memory).2 }) := by
    rw [hresult]
    exact .ok _ hlink hafter
  exact h

include hmemory

theorem updateCells {f : Cells → Cells}
    (hf : (f c.memory.cells).AlikeBeyond owner (f c'.memory.cells)) :
    AgreeBeyond owner ((Action.updateCells f : Action σ Unit) c) (Action.updateCells f c') :=
  modifyMemory (f := fun m => ((), m.mapCells f)) hlink rfl (hmemory.mapCells hf)

variable [Link σ]

/-- Clients of the same link whose memories are alike get the same from a batch that asks the same, if
what is made of the answers depends on the containers alone. -/
theorem dispatch_then {queries : List Query} {look : Action σ α} (hlib : ∀ q ∈ queries, q.BuiltIn)
    (hasks : batchRequests c.memory.cells queries = batchRequests c'.memory.cells queries)
    (hlook : ∀ containers effects, Takes queries containers effects → ∃ a, ∀ (c : Client σ) (cells : Cells),
      c.memory.cells = Effect.applyAll effects cells → look c = .ok a c) :
    AgreeBeyond owner ((do Action.dispatch queries; look) c) ((do Action.dispatch queries; look) c') := by
  have hrun := Action.dispatch_eq_verdict hlib c
  have hrun' := Action.dispatch_eq_verdict hlib c'
  rw [← hasks, ← hlink] at hrun'
  have hafter := hmemory.mapCells (hmemory.cells.applyAll
    (Action.verdict queries (batchRequests c.memory.cells queries) c.link).effects)
  rcases houtcome : (Action.verdict queries (batchRequests c.memory.cells queries) c.link).outcome
    with e | ⟨⟩
  · rw [Verdict.carryOut, houtcome] at hrun hrun'
    rw [EStateM.bind_of_error hrun, EStateM.bind_of_error hrun']
    exact .error e rfl hafter
  · obtain ⟨containers, htakes, -⟩ := Action.takes_of_verdict hlib houtcome
    obtain ⟨a, hfound⟩ := hlook containers _ htakes
    rw [Verdict.carryOut, houtcome] at hrun hrun'
    rw [EStateM.bind_of_ok hrun, EStateM.bind_of_ok hrun', hfound _ _ rfl, hfound _ _ rfl]
    exact .ok a rfl hafter

end AgreeBeyond

end TrafficControl
