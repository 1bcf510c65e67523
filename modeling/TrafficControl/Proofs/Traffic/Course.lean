import TrafficControl.Proofs.Query.Lengths
import TrafficControl.Proofs.Traffic.Operations

/-!
# The course of a simulation

A course starts a simulation and goes on with operations, successful or not. An operation may use any
entity that the simulation has handed out at some moment of the course. Observers and listeners may be
added at any time, and whoever works with the client elsewhere may forget answers, as may those who are
told; nothing is said about the bytes that come in.

Throughout a course there are roles that suit the simulation and name all that it has handed out, so no
operation fails by a fault of the client itself. A listing of vehicles may still name one that never
departed.

* `Course.exists_roles`: the invariant of a course.
* `internal_branches_unreachable`: which failures no course and no batch ever meets.
-/

namespace TrafficControl

/-! ### What is handed out -/

/-- Where a simulation stood at some time. -/
structure Moment where
  simulation : Simulation
  memory : Memory

/-- The entity is registered, or held by the repository of its kind. -/
inductive Moment.Hands (p : Moment) : {k : Kind} → Entity k → Prop
  | registered {v : Vehicle} (h : p.simulation.vehicle? v.id = some v) : p.Hands v
  | held {k : Kind} {e : Entity k}
      (h : ((p.simulation.repository k).objects p.memory)[e.id]? = some e.handle) : p.Hands e

/-- What the operation uses was handed out before. -/
def Operation.Available (past : List Moment) : Operation → Prop
  | use e _ => ∃ p ∈ past, p.Hands e
  | _ => True

variable {σ : Type} {Γ : Roles}

theorem Roles.Covers.of_hands {p : Moment} (h : Γ.Covers p.simulation p.memory) {k : Kind}
    {e : Entity k} (he : p.Hands e) : Γ e.handle = some (.entity k e.id) := by
  cases he with
  | held he => exact h.held k _ _ he
  | registered he =>
    obtain ⟨handle, hlive, heq⟩ := Option.map_eq_some_iff.mp he
    have hnamed := h.live _ _ hlive
    rw [← congrArg Entity.handle heq]
    exact hnamed

/-! ### Courses -/

/-- `Course past s c`: a simulation has come to stand at `s` while its client has become `c`, and `past`
are the moments after its operations, the latest first. -/
inductive Course [Link σ] : List Moment → Simulation → Client σ → Prop
  | started {given : Option Binary64} {s : Simulation} {c c' : Client σ} (blank : c.memory.Blank)
      (tidy : c.memory.Tidy) (h : Simulation.start given c = .ok s c') : Course [⟨s, c'.memory⟩] s c'
  | performed {past : List Moment} {s s' : Simulation} {c c' : Client σ} {op : Operation}
      (course : Course past s c) (available : op.Available past) (h : op.run s c = .ok s' c') :
      Course (⟨s', c'.memory⟩ :: past) s' c'
  | failed {past : List Moment} {s : Simulation} {c c' : Client σ} {op : Operation} {e : ClientError}
      (course : Course past s c) (available : op.Available past) (h : op.run s c = .error e c') :
      Course (⟨s, c'.memory⟩ :: past) s c'
  | observed {past : List Moment} {s : Simulation} {c : Client σ} {o : Observer}
      (course : Course past s c) (heed : ∀ notice (m : Memory), m.Fades (o.tell notice m)) :
      Course past (s.addObserver o) c
  | listened {past : List Moment} {s : Simulation} {c : Client σ} {x : Listener}
      (course : Course past s c) (heed : ∀ time (m : Memory), m.Fades (x.nextStep time m)) :
      Course past (s.addListener x) c
  | elsewhere {past : List Moment} {s : Simulation} {c c' : Client σ} (course : Course past s c)
      (h : c.memory.Fades c'.memory) : Course past s c'

namespace Course

variable {past : List Moment} {s : Simulation} {m : Memory}

/-- The roles suit the simulation as it stands and named all that it has ever handed out; whoever is
told about a step forgets at most, and the repositories are set up as at the start. -/
structure Cast (Γ : Roles) (past : List Moment) (s : Simulation) (m : Memory) : Prop where
  suits : Γ.Suits s m
  covers : ∀ p ∈ past, Γ.Covers p.simulation p.memory
  heed : Lifecycle.Heed Memory.Fades s.observers s.listeners
  wired : s.Wired

namespace Cast

theorem named (h : Cast Γ past s m) {op : Operation} (hop : op.Available past) : op.Named Γ := by
  cases op with
  | use e u =>
    obtain ⟨p, hp, he⟩ := hop
    exact (h.covers p hp).of_hands he
  | _ => trivial

/-- What an operation leaves is a moment of the course. -/
theorem performed (h : Cast Γ past s m) {s' : Simulation} {m' : Memory} (hs : s.SameButLifecycle s')
    (hcan : Γ.CanSuit s' m') : ∃ Γ', Cast Γ' (⟨s', m'⟩ :: past) s' m' := by
  obtain ⟨Γ', hle, hsuits⟩ := hcan
  refine ⟨Γ', hsuits, ?_, ?_, ?_⟩
  · rw [List.forall_mem_cons]
    exact ⟨hsuits.covers, fun p hp => (h.covers p hp).mono hle⟩
  · rw [hs]
    exact h.heed
  · rw [hs]
    exact h.wired.among _ _ _

/-- Others may be told about a simulation. -/
theorem attended (h : Cast Γ past s m) {observers : List Observer} {listeners : List Listener}
    (heed : Lifecycle.Heed Memory.Fades observers listeners) :
    Cast Γ past { s with observers, listeners } m where
  suits := ⟨h.suits.fit, h.suits.covers.attended observers listeners⟩
  covers := h.covers
  heed := heed
  wired := h.wired.among _ observers listeners

end Cast

variable [Link σ] {c : Client σ}

/-- Throughout a course there are roles that suit the simulation and name what it has handed out. -/
theorem exists_roles (course : Course past s c) : ∃ Γ, Cast Γ past s c.memory := by
  induction course with
  | started blank tidy h =>
    obtain ⟨Γ, hsuits⟩ := (Simulation.start_meets _ _ ⟨blank, tidy⟩).1 _ _ h
    obtain ⟨hobservers, hlisteners, hwired, -⟩ := Simulation.start_eq_ok tidy h
    refine ⟨Γ, hsuits, ?_, ?_, hwired⟩
    · rw [List.forall_mem_singleton]
      exact hsuits.covers
    · rw [hobservers, hlisteners]
      exact .nobody _
  | @performed past s s' c c' op course available h ih =>
    obtain ⟨Γ, hcast⟩ := ih
    obtain ⟨hsame, hcan⟩ :=
      (op.run_meets (hcast.named available) hcast.heed _ hcast.suits).1 _ _ h
    exact hcast.performed hsame hcan
  | @failed past s c c' op e course available h ih =>
    obtain ⟨Γ, hcast⟩ := ih
    have hendures := (op.run_meets (hcast.named available) hcast.heed _ hcast.suits).2 _ _ h
    exact hcast.performed rfl hendures.canSuit
  | @observed past s c o course heed ih =>
    obtain ⟨Γ, hcast⟩ := ih
    refine ⟨Γ, hcast.attended ⟨?_, hcast.heed.listener⟩⟩
    rw [List.forall_mem_append, List.forall_mem_singleton]
    exact ⟨hcast.heed.observer, heed⟩
  | @listened past s c x course heed ih =>
    obtain ⟨Γ, hcast⟩ := ih
    refine ⟨Γ, hcast.attended ⟨hcast.heed.observer, ?_⟩⟩
    rw [List.forall_mem_append, List.forall_mem_singleton]
    exact ⟨hcast.heed.listener, heed⟩
  | elsewhere course h ih =>
    obtain ⟨Γ, hcast⟩ := ih
    exact ⟨Γ, hcast.suits.of_fades h, hcast.covers, hcast.heed, hcast.wired⟩

/-- The failures of an operation in the course of a simulation are not the client's own, unless it is a
listing of vehicles that names one which never departed. -/
theorem permits_of_internal [honest : HonestLink σ] (course : Course past s c) {op : Operation}
    (available : op.Available past) {e : ClientError} {c' : Client σ} (h : op.run s c = .error e c')
    (hinternal : e.isInternal = true) :
    op.Permits e := by
  obtain ⟨Γ, hcast⟩ := course.exists_roles
  have hendures := (op.run_meets (hcast.named available) hcast.heed c hcast.suits).2 e c' h
  exact hendures.permitted_of_internal honest hinternal

end Course

/-! ### Failures that never come about -/

/-- Over a stream, whatever bytes come in:

* a start never fails by a fault of the client itself;
* nor does any operation in the course of a simulation, except that bringing the vehicle repository in
  line fails if a vehicle is listed that never departed;
* no batch, whatever its queries, fails for a response of another length than it declares. -/
theorem internal_branches_unreachable :
    (∀ (given : Option Binary64) (c c' : Client Stream) (e : ClientError), c.memory.Blank →
      c.memory.Tidy → Simulation.start given c = .error e c' → e.isInternal = false) ∧
    (∀ (past : List Moment) (s : Simulation) (c c' : Client Stream) (op : Operation) (e : ClientError),
      Course past s c → op.Available past → op.run s c = .error e c' → e.isInternal = true →
        op.Permits e) ∧
    ∀ (queries : List Query) (c c' : Client Stream) (e : ClientError),
      Action.dispatch queries c = .error e c' →
        ∀ declared actual, e ≠ .framing (.lengthMismatch declared actual) := by
  refine ⟨?_, ?_, ?_⟩
  · intro given c c' e blank tidy h
    exact (Simulation.start_meets given c ⟨blank, tidy⟩).2 e c' h inferInstance
  · intro past s c c' op e course available h hinternal
    exact course.permits_of_internal available h hinternal
  · intro queries c c' e h
    exact Action.dispatch_agrees h

/-- An edge answers with a value of another type, and a vehicle is listed that never departed. Only the
second is a failure of the client's own, and neither a start nor a batch on a stream without bytes has
one. -/
theorem unlisted_vehicle_reported :
    (∃ past s, ∃ c c₁ c₂ : Client Stream, ∃ (e : Edge) (failure : ClientError),
      Course past s c ∧ (Operation.use e .meanSpeed).Available past ∧
      (Operation.use e .meanSpeed).run s c = .error failure c₁ ∧ failure.isInternal = false ∧
      (Operation.ids .vehicle).run s c₁ = .error (.broken (.neverDeparted "v1")) c₂ ∧
      (Operation.ids .vehicle).Permits (.broken (.neverDeparted "v1"))) ∧
    (∃ (c' : Client Stream) (failure : ClientError),
      Simulation.start none { link := {} } = .error failure c' ∧ failure.isInternal = false) ∧
    ∃ (c' : Client Stream) (failure : ClientError),
      Action.dispatch [.close] { link := {} } = .error failure c' ∧
        failure ≠ .framing (.lengthMismatch 0 0) := by
  have blank : ({} : Memory).Blank := fun _ _ _ => Std.ExtTreeMap.getElem?_empty
  have tidy : ({} : Memory).Tidy := fun _ _ => rfl
  refine ⟨?_, ?_, ?_⟩
  · have hplay : (Simulation.start (some .zero)).succeedsWith (fun s c =>
        ((Operation.ids .edge).run s).succeedsWith (fun s c =>
          ((s.repository .edge).objects c.memory)["e0"]?.any fun h =>
            ((Operation.stepTo .zero).run s).succeedsWith (fun s c =>
              ((Operation.use (k := .edge) ⟨h, "e0"⟩ .meanSpeed).run s).failsWith (fun _ c =>
                ((Operation.ids .vehicle).run s).failsWith
                  (fun e _ => e == .broken (.neverDeparted "v1")) c) c) c) c)
        ({ link := .awaiting [Lifecycle.bootstrapReply { handle := 5 } { active := ["v0"] },
          [(Repository.idList (k := .edge) ⟨2, "", false, true⟩).container (.textList ["e0"])],
          Lifecycle.tickReply { handle := 5 } { active := ["v0"] },
          [(Entity.query (k := .edge) ⟨7, "e0"⟩ EdgeVariable.meanSpeed).container (.text "fast")],
          [(Repository.idList (k := .vehicle) ⟨1, "", true, false⟩).container (.textList ["v0", "v1"])]] } :
          Client Stream) = true := by
      decide +kernel
    obtain ⟨s₁, c₁, hstart, hplay⟩ := Action.of_succeedsWith hplay
    obtain ⟨s₂, c₂, hlist, hplay⟩ := Action.of_succeedsWith hplay
    obtain ⟨h, hheld, hplay⟩ := (Option.any_eq_true _ _).mp hplay
    obtain ⟨s₃, c₃, hstep, hplay⟩ := Action.of_succeedsWith hplay
    obtain ⟨failure, c₄, huse, hplay⟩ := Action.of_failsWith hplay
    obtain ⟨unlisted, c₅, hvehicles, hunlisted⟩ := Action.of_failsWith hplay
    cases eq_of_beq hunlisted
    have course₁ := Course.started blank tidy hstart
    have course₂ := course₁.performed (show (Operation.ids .edge).Available _ from trivial) hlist
    have course₃ := course₂.performed (show (Operation.stepTo .zero).Available _ from trivial) hstep
    have available : (Operation.use (k := .edge) ⟨h, "e0"⟩ .meanSpeed).Available
        [⟨s₃, c₃.memory⟩, ⟨s₂, c₂.memory⟩, ⟨s₁, c₁.memory⟩] :=
      ⟨⟨s₂, c₂.memory⟩, List.mem_cons_of_mem _ List.mem_cons_self, .held hheld⟩
    have course₄ := course₃.failed available huse
    refine ⟨_, s₃, c₃, c₄, c₅, ⟨h, "e0"⟩, failure, course₃, available, huse, ?_, hvehicles, ?_⟩
    · refine Bool.eq_false_iff.mpr fun hinternal => ?_
      exact internal_branches_unreachable.2.1 _ _ _ _ _ _ course₃ available huse hinternal
    · exact internal_branches_unreachable.2.1 _ _ _ _ _ _ course₄ trivial hvehicles rfl
  · have hplay : (Simulation.start none).failsWith (fun _ _ => true)
        ({ link := {} } : Client Stream) = true := by
      decide +kernel
    obtain ⟨failure, c', hstart, -⟩ := Action.of_failsWith hplay
    exact ⟨c', failure, hstart, internal_branches_unreachable.1 _ _ _ _ blank tidy hstart⟩
  · have hplay : (Action.dispatch [.close]).failsWith (fun _ _ => true)
        ({ link := {} } : Client Stream) = true := by
      decide +kernel
    obtain ⟨failure, c', hdispatch, -⟩ := Action.of_failsWith hplay
    exact ⟨c', failure, hdispatch, internal_branches_unreachable.2.2 _ _ _ _ hdispatch 0 0⟩

end TrafficControl
