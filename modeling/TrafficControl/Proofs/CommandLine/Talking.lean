import TrafficControl.Proofs.CommandLine.Questions

/-!
# What a computation asks

`Talks client P x Q F` says what a computation `x` with a client asks of the simulator. From a state that
satisfies `P` it either succeeds after a conversation `xs`, or it fails after a conversation `xs` with a
question `q` that is refused. There are as many round trips as exchanges, `Q` tells what a conversation
leads to, and `F` where one may break off. What a computation asks is put together from what its parts ask
(`Talks.bind`); a part may be silent, or ask one question.

* `dispatch_question`, `asks_dispatch`: the batch of a question, and what is made of the reply.
* `Talks.act`, `silent_print`: what a session does.
-/

namespace TrafficControl

namespace Session

variable {σ S α β : Type} [Link σ]

/-- From a state that satisfies `P`, the computation succeeds after a conversation that reaches `Q`, or
it fails with a question that is refused after a conversation, as `F` permits. -/
def Talks (client : S → Client σ) (P : S → Prop) (x : EStateM ClientError S α)
    (Q : List Exchange → α → S → Prop) (F : List Exchange → Question → S → Prop) : Prop :=
  ∀ s, P s →
    (∀ a s', x s = .ok a s' → ∃ xs, Converses (client s).link xs (client s').link ∧
      (client s').roundTrips = (client s).roundTrips + xs.length ∧ Q xs a s') ∧
    ∀ e s', x s = .error e s' → ∃ xs q l, Converses (client s).link xs l ∧
      Refuses q l (client s').link ∧ F xs q s'

/-- The computation asks nothing and succeeds. -/
abbrev Silent (client : S → Client σ) (P : S → Prop) (x : EStateM ClientError S α)
    (Q : α → S → Prop) : Prop :=
  Talks client P x (fun xs a s => xs = [] ∧ Q a s) fun _ _ _ => False

/-- The computation asks one question and fails only if it is refused. -/
abbrev Asks (client : S → Client σ) (P : S → Prop) (x : EStateM ClientError S α) (q : Question)
    (Q : q.Answer → α → S → Prop) (E : S → Prop) : Prop :=
  Talks client P x (fun xs a s => ∃ b, xs = [⟨q, b⟩] ∧ Q b a s) fun xs p s => xs = [] ∧ p = q ∧ E s

namespace Talks

variable {client : S → Client σ} {P P' : S → Prop} {x : EStateM ClientError S α}
  {f : α → EStateM ClientError S β} {Q Q' : List Exchange → α → S → Prop}
  {R : List Exchange → β → S → Prop} {F F' : List Exchange → Question → S → Prop}

theorem mono (h : Talks client P x Q F) (hP : ∀ s, P' s → P s) (hQ : ∀ xs a s, Q xs a s → Q' xs a s)
    (hF : ∀ xs q s, F xs q s → F' xs q s) : Talks client P' x Q' F' := by
  intro s hs
  obtain ⟨hok, herror⟩ := h s (hP s hs)
  constructor
  · intro a s' hx
    obtain ⟨xs, hconverses, htrips, hreached⟩ := hok a s' hx
    exact ⟨xs, hconverses, htrips, hQ xs a s' hreached⟩
  · intro e s' hx
    obtain ⟨xs, q, l, hconverses, hrefuses, hbroken⟩ := herror e s' hx
    exact ⟨xs, q, l, hconverses, hrefuses, hF xs q s' hbroken⟩

/-- A fact that does not depend on the state may be taken out of what holds before. -/
theorem given {p : Prop} (h : p → Talks client P x Q F) : Talks client (fun s => p ∧ P s) x Q F := by
  intro s hs
  exact h hs.1 s hs.2

/-- What holds before may be looked at from state to state. -/
theorem by_state (h : ∀ s, P s → ∃ T : S → Prop, T s ∧ Talks client T x Q F) : Talks client P x Q F := by
  intro s hs
  obtain ⟨T, hT, htalks⟩ := h s hs
  exact htalks s hT

theorem bind (hx : Talks client P x Q F)
    (hf : ∀ xs a, Talks client (Q xs a) (f a) (fun ys => R (xs ++ ys)) fun ys => F (xs ++ ys)) :
    Talks client P (x >>= f) R F := by
  intro s hs
  obtain ⟨hok, herror⟩ := hx s hs
  constructor
  · intro b s' hbind
    obtain ⟨a, s₁, hfirst, hrest⟩ := EStateM.bind_eq_ok_iff.mp hbind
    obtain ⟨xs, hconverses, htrips, hreached⟩ := hok a s₁ hfirst
    obtain ⟨ys, hconverses', htrips', hreached'⟩ := (hf xs a s₁ hreached).1 b s' hrest
    refine ⟨xs ++ ys, hconverses.append hconverses', ?_, hreached'⟩
    rw [htrips', htrips, List.length_append, Nat.add_assoc]
  · intro e s' hbind
    rcases EStateM.bind_eq_error_iff.mp hbind with hfirst | ⟨a, s₁, hfirst, hrest⟩
    · exact herror e s' hfirst
    · obtain ⟨xs, hconverses, -, hreached⟩ := hok a s₁ hfirst
      obtain ⟨ys, q, l, hconverses', hrefuses, hbroken⟩ := (hf xs a s₁ hreached).2 e s' hrest
      exact ⟨xs ++ ys, q, l, hconverses.append hconverses', hrefuses, hbroken⟩

/-- After a silent part, the conversation is that of the other part. -/
theorem silent_bind {T : α → S → Prop} (hx : Silent client P x T)
    (hf : ∀ a, Talks client (T a) (f a) R F) : Talks client P (x >>= f) R F := by
  refine bind (hx.mono (fun _ => id) (fun _ _ _ => id) fun _ _ _ => False.elim) ?_
  intro xs a
  apply given
  rintro rfl
  exact hf a

/-- After a part that asks a question, the conversation goes on with that of the other part. -/
theorem ask_bind {q : Question} {T : q.Answer → α → S → Prop} {E : S → Prop}
    (hx : Asks client P x q T E) (hE : ∀ s, E s → F [] q s)
    (hf : ∀ b a, Talks client (T b a) (f a) (fun ys => R (⟨q, b⟩ :: ys)) fun ys => F (⟨q, b⟩ :: ys)) :
    Talks client P (x >>= f) R F := by
  have hfirst : Talks client P x (fun xs a s => ∃ b, xs = [⟨q, b⟩] ∧ T b a s) F := by
    refine hx.mono (fun _ => id) (fun _ _ _ => id) ?_
    rintro xs p s ⟨rfl, rfl, hs⟩
    exact hE s hs
  refine hfirst.bind ?_
  rintro xs a s ⟨b, rfl, hs⟩
  exact hf b a s hs

/-- A question may be followed by a part that is silent. -/
theorem ask_then {q : Question} {T : q.Answer → α → S → Prop} {U : q.Answer → β → S → Prop}
    {E : S → Prop} (hx : Asks client P x q T E) (hf : ∀ b a, Silent client (T b a) (f a) (U b)) :
    Asks client P (x >>= f) q U E := by
  refine hx.ask_bind (fun _ hs => ⟨rfl, rfl, hs⟩) ?_
  intro b a
  refine (hf b a).mono (fun _ => id) ?_ (fun _ _ _ => False.elim)
  rintro _ b' s ⟨rfl, hs⟩
  exact ⟨b, rfl, hs⟩

/-- Computations that do the same from where they start ask the same. -/
theorem congr {y : EStateM ClientError S α} (h : Talks client P y Q F) (heq : ∀ s, P s → x s = y s) :
    Talks client P x Q F := by
  intro s hs
  rw [heq s hs]
  exact h s hs

theorem pure {a : α} (h : ∀ s, P s → Q [] a s) : Talks client P (Pure.pure a) Q F := by
  intro s hs
  constructor
  · intro b s' hrun
    cases hrun
    exact ⟨[], .nil _, rfl, h s hs⟩
  · intro e s' hrun
    cases hrun

end Talks

theorem silent_get {client : S → Client σ} {P : S → Prop} : Silent client P get fun _ s => P s := by
  intro s hs
  constructor
  · intro a s' hrun
    cases hrun
    exact ⟨[], .nil _, rfl, rfl, hs⟩
  · intro e s' hrun
    cases hrun

/-! ### Actions -/

section Actions

variable {P : Client σ → Prop}

theorem silent_modifyMemory {f : Memory → α × Memory} {Q : α → Client σ → Prop}
    (h : ∀ c, P c → Q (f c.memory).1 { c with memory := (f c.memory).2 }) :
    Silent id P (Action.modifyMemory f) Q := by
  intro c hc
  constructor
  · intro a c' hrun
    cases hrun
    exact ⟨[], .nil _, rfl, rfl, h c hc⟩
  · intro e c' hrun
    cases hrun

theorem silent_log (r : LogRecord) {P : Memory → Prop} (h : ∀ m, P m → P (m.addLog r)) :
    Silent (σ := σ) id (fun c => P c.memory) (Action.log r) fun _ c => P c.memory :=
  silent_modifyMemory (f := fun m => ((), m.addLog r)) fun c hc => h c.memory hc

/-- The batch of a question succeeds if there is an acceptable reply, and otherwise it fails. -/
theorem dispatch_question {q : Question} {c : Client σ} (hready : q.Ready c.memory.cells) :
    (∃ reply link containers effects, Link.transact q.frame c.link = .ok reply link ∧
      Acknowledged q.commands reply containers ∧ Takes q.queries containers effects ∧
      Action.dispatch q.queries c =
        .ok () ⟨link, c.roundTrips + 1, c.memory.mapCells (Effect.applyAll effects)⟩) ∨
    ∃ e c', Action.dispatch q.queries c = .error e c' ∧ Refuses q c.link c'.link := by
  have hdispatch := Action.dispatch_eq_verdict q.builtIn_of_mem_queries c
  have hcommands : (q.commands.map ([·])).flatten = q.commands := by
    rw [← List.flatMap_def]
    exact List.flatMap_singleton' q.commands
  have hne : q.commands ≠ [] := by cases q <;> exact List.cons_ne_nil _ _
  have hlength : q.queries.length = q.commands.length := by cases q <;> rfl
  rw [hready, Action.verdict] at hdispatch
  simp only [hcommands, List.isEmpty_iff, hne, if_false, q.encode_commands] at hdispatch
  rcases htransact : Link.transact q.frame c.link with ⟨reply, link⟩ | ⟨e, link⟩
  · simp only [htransact] at hdispatch
    rcases hchecked : checkedContainers q.commands reply with e | containers
    · simp only [hchecked] at hdispatch
      refine Or.inr ⟨e, _, hdispatch, Or.inr ⟨reply, htransact, ?_⟩⟩
      rintro a ⟨containers, -, hreply, -⟩
      rw [checkedContainers_eq_ok_iff.mpr hreply] at hchecked
      cases hchecked
    · simp only [hchecked] at hdispatch
      have hreply := checkedContainers_eq_ok_iff.mp hchecked
      rcases hfare : (fare q.queries containers).1 with e | ⟨⟩
      · simp only [Verdict.carryOut, hfare] at hdispatch
        refine Or.inr ⟨e, _, hdispatch, Or.inr ⟨reply, htransact, ?_⟩⟩
        rintro a ⟨containers', effects, hreply', htakes, -⟩
        cases hreply.1.symm.trans hreply'.1
        rw [fare_of_takes htakes] at hfare
        cases hfare
      · simp only [Verdict.carryOut, hfare] at hdispatch
        have htakes : Takes q.queries containers (fare q.queries containers).2 := by
          apply takes_of_fare hfare
          rw [hlength, ← hreply.2.length_eq]
        exact Or.inl ⟨reply, link, containers, _, rfl, hreply, htakes, hdispatch⟩
  · simp only [htransact] at hdispatch
    exact Or.inr ⟨e, _, hdispatch, Or.inl ⟨e, htransact⟩⟩

/-- Asking a question and looking at what was remembered: this fails only if the question is refused. -/
theorem asks_dispatch {q : Question} {J : Memory → Prop} {look : Action σ q.Answer}
    (hready : ∀ m, J m → q.Ready m.cells) (hkeeps : ∀ p ∈ q.queries, p.Keeps J)
    (hlook : ∀ containers effects, Takes q.queries containers effects →
      ∃ a, q.told? containers = some a ∧ ∀ (c : Client σ) (cells : Cells),
        c.memory.cells = Effect.applyAll effects cells → look c = .ok a c) :
    Asks id (fun c => J c.memory) (do Action.dispatch q.queries; look) q
      (fun b a c => a = b ∧ J c.memory) fun _ => True := by
  intro c hc
  have hmeets := Action.dispatch_keeps (σ := σ) q.builtIn_of_mem_queries hkeeps c hc
  rcases dispatch_question (hready c.memory hc) with
    ⟨reply, link, containers, effects, htransact, hreply, htakes, hdispatch⟩ | ⟨e, c₁, hdispatch, hrefuses⟩
  · obtain ⟨b, htold, hfound⟩ := hlook containers effects htakes
    have hkept := hmeets.1 () _ hdispatch
    rw [EStateM.bind_of_ok hdispatch, hfound _ c.memory.cells rfl]
    constructor
    · rintro a c' h
      cases h
      exact ⟨[⟨q, b⟩], .cons htransact ⟨containers, effects, hreply, htakes, htold⟩ (.nil _), rfl, b, rfl,
        rfl, hkept⟩
    · rintro e c' h
      cases h
  · rw [EStateM.bind_of_error hdispatch]
    constructor
    · rintro a c' h
      cases h
    · rintro e' c' h
      cases h
      exact ⟨[], q, c.link, .nil _, hrefuses, rfl, rfl, trivial⟩

end Actions

/-! ### Sessions -/

section Sessions

variable {P : Client σ → Prop} {x : Action σ α} {Q : List Exchange → α → Client σ → Prop}
  {F : List Exchange → Question → Client σ → Prop}

/-- What a client asks, a session asks that has the client do so. Nothing is printed. -/
theorem Talks.act (h : Talks id P x Q F) (lines : Array String) :
    Talks Console.client (fun c => P c.client ∧ c.lines = lines) (Session.act x)
      (fun xs a c => Q xs a c.client ∧ c.lines = lines) fun xs q c => F xs q c.client ∧ c.lines = lines := by
  rintro ⟨client, _⟩ ⟨hc, rfl⟩
  obtain ⟨hok, herror⟩ := h client hc
  unfold Session.act
  dsimp only
  rcases hx : x client with ⟨a, client'⟩ | ⟨e, client'⟩
  · constructor
    · rintro b c' hrun
      cases hrun
      obtain ⟨xs, hconverses, htrips, hreached⟩ := hok a client' hx
      exact ⟨xs, hconverses, htrips, hreached, rfl⟩
    · rintro e c' hrun
      cases hrun
  · constructor
    · rintro b c' hrun
      cases hrun
    · rintro e' c' hrun
      cases hrun
      obtain ⟨xs, q, l, hconverses, hrefuses, hbroken⟩ := herror e client' hx
      exact ⟨xs, q, l, hconverses, hrefuses, hbroken, rfl⟩

/-- A question that a client asks, a session asks that has the client do so. -/
theorem Talks.act_ask {q : Question} {T : q.Answer → α → Client σ → Prop} {E : Client σ → Prop}
    (h : Asks id P x q T E) (lines : Array String) :
    Asks Console.client (fun c => P c.client ∧ c.lines = lines) (Session.act x) q
      (fun b a c => T b a c.client ∧ c.lines = lines) fun c => E c.client ∧ c.lines = lines := by
  refine (h.act lines).mono (fun _ => id) ?_ ?_
  · rintro xs a c ⟨⟨b, rfl, hb⟩, hlines⟩
    exact ⟨b, rfl, hb, hlines⟩
  · rintro xs p c ⟨⟨rfl, rfl, hc⟩, hlines⟩
    exact ⟨rfl, rfl, hc, hlines⟩

/-- What asks nothing of the simulator asks nothing in a session. -/
theorem Talks.act_silent {T : α → Client σ → Prop} (h : Silent id P x T) (lines : Array String) :
    Silent Console.client (fun c => P c.client ∧ c.lines = lines) (Session.act x)
      fun a c => T a c.client ∧ c.lines = lines := by
  refine (h.act lines).mono (fun _ => id) ?_ ?_
  · rintro xs a c ⟨⟨rfl, ha⟩, hlines⟩
    exact ⟨rfl, ha, hlines⟩
  · rintro xs p c ⟨hfalse, -⟩
    exact hfalse

/-- Printing asks nothing. -/
theorem silent_print (before : Array String) (lines : List String) :
    Silent Console.client (fun c => P c.client ∧ c.lines = before) (Session.print lines)
      fun _ c => P c.client ∧ c.lines = before ++ lines := by
  rintro ⟨client, _⟩ ⟨hc, rfl⟩
  constructor
  · rintro a c' hrun
    cases hrun
    exact ⟨[], .nil _, rfl, rfl, hc, rfl⟩
  · rintro e c' hrun
    cases hrun

end Sessions

end Session

end TrafficControl
