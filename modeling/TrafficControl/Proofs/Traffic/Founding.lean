import TrafficControl.Proofs.Traffic.Growth
import TrafficControl.Proofs.Traffic.VehicleRepository

/-!
# The start of a simulation

A simulation starts by making the objects that it works with, one after another. Each gets its role as
it is made, and the repositories hold nothing yet (`Founded`). What is asked meanwhile finds its owner
among them. Once the vehicles that are there already are registered, there are roles that suit the
simulation.

* `Simulation.start_meets`: a start leaves a simulation that some roles suit, and fails by no fault of
  the client.
-/

namespace TrafficControl

variable {σ α : Type} {Γ : Roles} {before m m' : Memory} {E : ClientError → Memory → Prop}

/-! ### Objects that are made -/

/-- Some roles fit the memory and give these objects theirs, and nothing is held for any of them. -/
structure Roles.Founds (Γ : Roles) (made : List (Handle × Role)) (m : Memory) : Prop where
  fit : Γ.Fit m
  tidy : m.Tidy
  role : ∀ p ∈ made, Γ p.1 = some p.2
  holding : ∀ p ∈ made, m.holding p.1 = ∅

def Founded (made : List (Handle × Role)) (m : Memory) : Prop := ∃ Γ : Roles, Γ.Founds made m

theorem Memory.Tidy.of_sameHoldings (h : m.Tidy) (hm : Memory.SameHoldings m m')
    (hle : m.nextHandle ≤ m'.nextHandle) : m'.Tidy := by
  intro x hx
  rw [hm.holding_eq]
  exact h x (Nat.le_trans hle hx)

namespace Founded

variable {made : List (Handle × Role)}

theorem nothing (hblank : m.Blank) (htidy : m.Tidy) : Founded [] m :=
  ⟨fun _ => none, .nobody hblank, htidy, fun _ h => absurd h List.not_mem_nil,
    fun _ h => absurd h List.not_mem_nil⟩

/-- A new object gets any role. -/
theorem fresh (h : Founded made m) (r : Role) : Founded ((m.nextHandle, r) :: made) m.fresh.2 := by
  obtain ⟨Γ, hfit, htidy, hrole, hholding⟩ := h
  refine ⟨Γ.assign m.nextHandle r, hfit.assign r (.fresh m) (Nat.lt_succ_self _),
    htidy.of_sameHoldings rfl (Nat.le_succ _), ?_, ?_⟩
  · rw [List.forall_mem_cons]
    exact ⟨Roles.assign_self _ _ _, fun p hp => hfit.extendedBy_assign r _ _ (hrole p hp)⟩
  · rw [List.forall_mem_cons]
    exact ⟨htidy _ (Nat.le_refl _), hholding⟩

theorem fresh_meets (r : Role) :
    (Action.fresh : Action σ Handle).Meets (Founded made) (fun h => Founded ((h, r) :: made)) E := by
  unfold Action.fresh
  exact .modifyMemory fun m hm => hm.fresh r

theorem create_meets (k : Kind) (name : String) (changing forwarding : Bool) :
    (Repository.create k name changing forwarding : Action σ (Repository k)).Meets (Founded made)
      (fun r => Founded ((r.handle, .repository k) :: made)) E :=
  .bind (fresh_meets (.repository k)) fun _ => .pure fun _ hm => hm

theorem createLifecycle_meets :
    (Lifecycle.create : Action σ Lifecycle).Meets (Founded made)
      (fun l m => l.live = ∅ ∧ Founded ((l.handle, .lifecycle) :: made) m) E :=
  .bind (fresh_meets .lifecycle) fun _ => .pure fun _ hm => ⟨rfl, hm⟩

end Founded

namespace Lifecycle

variable [Link σ] {l : Lifecycle}

/-- The batch of a bootstrap. -/
def bootstrapBatch (l : Lifecycle) : List Query := [.read l.activeQuery, .read l.timeQuery]

/-- A bootstrap registers the vehicles that are there, which get roles of their own. -/
theorem bootstrap_meets (hl : Γ l.handle = some .lifecycle) (hlive : Γ.Names .vehicle l.live) :
    (l.bootstrap : Action σ Lifecycle).Meets (Γ.FitSince before)
      (fun l' m => l'.handle = l.handle ∧ Memory.SameHoldings before m ∧
        Γ.CanName .vehicle l'.live m) (Γ.Excuses σ before) := by
  obtain ⟨hdouble, -, -, htextList, -⟩ := Readable.accepts_table
  have hsub : ∀ q ∈ l.bootstrapBatch, q ∈ l.tickBatch := by simp [bootstrapBatch, tickBatch]
  have hmem : Query.read l.activeQuery ∈ l.bootstrapBatch ∧
      Query.read l.timeQuery ∈ l.bootstrapBatch := by
    simp [bootstrapBatch]
  refine .bind (dispatch_meets_of_subset hl hsub) fun _ =>
    .bind (fetched_meets_of_mem hl hsub hmem.2 hdouble) fun time =>
    .bind (fetchedIds_meets_of_mem hl hsub hmem.1 htextList) fun active => ?_
  refine .bind (Q := fun live m => Memory.SameHoldings before m ∧ Γ.CanName .vehicle live m)
    (.modifyMemory ?_) fun live => .bind (.update ?_) fun _ => .pure fun m hm => ⟨rfl, hm⟩
  · rintro m ⟨hfit, -⟩
    have hgrown : Γ.Grown Memory.Fades m .vehicle (registerAll time active.toList l.live m).1 _ :=
      grown_registerAll Memory.Fades.steady (.start Memory.Fades.steady hfit.fit.toPlaced hlive) _
    exact ⟨Memory.SameHoldings.lasting.trans (.of_sameButCells hfit.same) hgrown.passes.holdings,
      hgrown.canName hfit.fit⟩
  · rintro m ⟨hsame, Γ', hle, hfit, hnames⟩
    exact ⟨hsame, Γ', hle, hfit.of_fades (.addLog _ m), hnames⟩

end Lifecycle

namespace Simulation

variable [Link σ]

/-- The length of a step is the simulation's own to ask for. -/
theorem chooseStepLength_meets {made : List (Handle × Role)} {handle : Handle}
    (hmem : (handle, Role.simulation) ∈ made) (given : Option Binary64) :
    (chooseStepLength given handle : Action σ Binary64).Meets (Founded made) (fun _ => Founded made)
      (fun e _ => HonestLink σ → e.isInternal = false) := by
  cases given with
  | some length => exact .pure fun _ hm => hm
  | none =>
    refine .elim fun Γ => .named ?_
    rintro before ⟨hfit, htidy, hrole, hholding⟩
    have hserves : Γ.Serves (wholeQuery handle 2 Code.stepLength .double) :=
      ⟨.simulation, hrole _ hmem, rfl⟩
    have hask : ((wholeQuery handle 2 Code.stepLength .double).getAs Binary64 : Action σ Binary64).Meets
        (Γ.FitSince before) (fun _ => Γ.FitSince before) (Γ.Excuses σ before) :=
      ReadQuery.getAs_meets_of_plain (standard_wholeQuery _ _ _ _) hserves Readable.accepts_table.1 rfl
    refine hask.mono ?_ ?_ fun _ _ he => he.isInternal_eq_false
    · rintro m rfl
      exact .start hfit
    · intro length m hm
      have hsame := Memory.SameHoldings.of_sameButCells hm.same
      refine ⟨Γ, hm.fit, htidy.of_sameHoldings hsame ?_, hrole, ?_⟩
      · exact Nat.le_of_eq hm.same.nextHandle_eq.symm
      · intro p hp
        rw [hsame.holding_eq]
        exact hholding p hp

/-- A start leaves a simulation that some roles suit. -/
theorem start_meets (given : Option Binary64) :
    (start given : Action σ Simulation).Meets (fun m => m.Blank ∧ m.Tidy)
      (fun s m => ∃ Γ : Roles, Γ.Suits s m) (fun e _ => HonestLink σ → e.isInternal = false) := by
  refine .bind ((Founded.fresh_meets .simulation).mono
    (fun m hm => Founded.nothing hm.1 hm.2) (fun _ _ => id) fun _ _ => id) fun handle => ?_
  refine .bind (Founded.create_meets _ _ _ _) fun vehicles => ?_
  refine .bind (Founded.create_meets _ _ _ _) fun edges => ?_
  refine .bind (Founded.create_meets _ _ _ _) fun lanes => ?_
  refine .bind (Founded.create_meets _ _ _ _) fun trafficLights => ?_
  refine .bind (chooseStepLength_meets (by simp) given) fun stepLength => ?_
  refine .bind Founded.createLifecycle_meets fun l => .named ?_
  rintro before ⟨hlive, Γ, hfit, htidy, hrole, hholding⟩
  simp only [List.forall_mem_cons] at hrole hholding
  obtain ⟨hlifecycle, hlights, hlanes, hedges, hvehicles, hsimulation, -⟩ := hrole
  obtain ⟨-, hnolights, hnolanes, hnoedges, hnovehicles, -⟩ := hholding
  have hboot : (l.bootstrap : Action σ Lifecycle).Meets (· = before)
      (fun l' m => l'.handle = l.handle ∧ Memory.SameHoldings before m ∧
        Γ.CanName .vehicle l'.live m) (fun e _ => HonestLink σ → e.isInternal = false) := by
    refine (Lifecycle.bootstrap_meets hlifecycle ?_).mono ?_ (fun _ _ => id)
      fun _ _ he => he.isInternal_eq_false
    · rw [hlive]
      exact .empty Γ _
    · rintro m rfl
      exact .start hfit
  refine .bind hboot fun l' => .bind (.update fun m hm => ?_) fun _ => .pure fun m hm => hm
  obtain ⟨hhandle, hsame, Γ', hle, hfit', hnames⟩ := hm
  refine ⟨Γ', hfit'.of_fades (.addLog _ m), ?_⟩
  have hnothing : ∀ {k : Kind} {r : Handle}, before.holding r = ∅ →
      Γ'.Names k ((m.addLog (.ready l'.clock stepLength)).holding r) := by
    intro k r hr
    have hnow : m.holding r = ∅ := hsame.holding_eq r ▸ hr
    show Γ'.Names k (m.holding r)
    rw [hnow]
    exact .empty Γ' k
  exact {
    simulation := hle _ _ hsimulation
    lifecycle := by
      rw [hhandle]
      exact hle _ _ hlifecycle
    repository := fun k => by
      cases k with
      | vehicle => exact hle _ _ hvehicles
      | edge => exact hle _ _ hedges
      | lane => exact hle _ _ hlanes
      | trafficLight => exact hle _ _ hlights
    live := hnames
    held := fun k => by
      cases k with
      | vehicle => exact hnothing hnovehicles
      | edge => exact hnothing hnoedges
      | lane => exact hnothing hnolanes
      | trafficLight => exact hnothing hnolights }

end Simulation

end TrafficControl
