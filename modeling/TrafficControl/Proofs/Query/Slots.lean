import Mathlib.Data.Set.Function
import TrafficControl.Proofs.Query.Taking
import TrafficControl.Proofs.Query.Asking

/-!
# The slots of reads and what happens to them

A read has a slot for its answer and one for its parameter. `SlotEvent` is what can happen to these,
and a history lists what has happened, the latest last.

* `LastAnswer`: the answer that a read took last, if nothing has put it out of date since.
* `Coherent`: what a read remembers is its last answer, and that was asked for with the parameter that
  is set now.
* `Coherent.took`, `Coherent.forget`, `Coherent.given`: every single event keeps this so.
-/

namespace TrafficControl

/-! ### What happens to the slots of reads -/

/-- Something that happens to reads. -/
inductive SlotEvent where
  /-- A query of a batch has made something of the container at the place of its command. -/
  | took (q : Query) (command : Command) (container : Container)
  /-- A read was told that its answer is out of date. -/
  | forgotten (q : ReadQuery)
  /-- A read was told about a step. -/
  | stepped (q : ReadQuery)
  /-- A read was given a parameter, after another one or none. -/
  | given (q : ReadQuery) (before : Option Value) (v : Value)

namespace SlotEvent

/-- What puts the answer to a read out of date. -/
def Empties : SlotEvent → ReadQuery → Prop
  | took (.change r) _ _, q => q.cell ∈ r.outdates
  | took _ _ _, _ => False
  | forgotten r, q => r = q
  | stepped r, q => r = q
  | given r before v, q => r = q ∧ before.any (·.same v) = false

/-- A read has got another answer. -/
def Fills (e : SlotEvent) (q : ReadQuery) : Prop :=
  ∃ command container, e = took (.read q) command container

theorem fills_took (q : ReadQuery) (command : Command) (container : Container) :
    (took (.read q) command container).Fills q :=
  ⟨command, container, rfl⟩

end SlotEvent

/-- The container that a read took last, and the command that it had sent for it, if nothing has put
the answer out of date since. -/
def LastAnswer (history : List SlotEvent) (q : ReadQuery) (command : Command)
    (container : Container) : Prop :=
  ∃ older newer, history = older ++ .took (.read q) command container :: newer ∧
    ∀ e ∈ newer, ¬ e.Empties q ∧ ¬ e.Fills q

theorem not_lastAnswer_nil {q : ReadQuery} {command : Command} {container : Container} :
    ¬ LastAnswer [] q command container := by
  rintro ⟨older, newer, h, -⟩
  exact absurd h.symm (List.append_ne_nil_of_right_ne_nil _ (List.cons_ne_nil _ _))

theorem lastAnswer_concat {history : List SlotEvent} {e : SlotEvent} {q : ReadQuery}
    {command : Command} {container : Container} :
    LastAnswer (history ++ [e]) q command container ↔
      e = .took (.read q) command container ∨
        (LastAnswer history q command container ∧ ¬ e.Empties q ∧ ¬ e.Fills q) := by
  constructor
  · rintro ⟨older, newer, heq, hnewer⟩
    rcases List.eq_nil_or_concat newer with rfl | ⟨newer, e', rfl⟩
    · exact Or.inl (List.head_eq_of_cons_eq (List.append_inj' heq rfl).2)
    · rw [List.concat_eq_append, ← List.cons_append, ← List.append_assoc] at heq
      obtain ⟨rfl, hlast⟩ := List.append_inj' heq rfl
      obtain rfl : e = e' := List.head_eq_of_cons_eq hlast
      rw [List.concat_eq_append] at hnewer
      obtain ⟨hbefore, he⟩ := List.forall_mem_append.mp hnewer
      exact Or.inr ⟨⟨older, newer, rfl, hbefore⟩, he e List.mem_cons_self⟩
  · rintro (rfl | ⟨⟨older, newer, rfl, hnewer⟩, he⟩)
    · exact ⟨history, [], rfl, List.forall_mem_nil _⟩
    · refine ⟨older, newer ++ [e], by rw [List.append_assoc, List.cons_append], ?_⟩
      exact List.forall_mem_append.mpr ⟨hnewer, List.forall_mem_singleton.mpr he⟩

/-! ### Coherence -/

/-- A read remembers its last answer and nothing else; that was asked for with the parameter that is
set now, or without one; and none is set only if none was ever given. -/
structure Coherent (reads : Set ReadQuery) (history : List SlotEvent) (cells : Cells) : Prop where
  cached_iff : ∀ q ∈ reads, ∀ v, q.cached? cells = some v ↔
    ∃ command container, LastAnswer history q command container ∧ q.valueOf container = .ok v
  asked : ∀ q ∈ reads, ∀ command container, LastAnswer history q command container →
    command.IsAbout q.command q.code q.object cells.parameters[q.cell]?
  never_given : ∀ q ∈ reads, cells.parameters[q.cell]? = none ↔
    ∀ before v, .given q before v ∉ history

/-- How a read remembers what happens. -/
inductive SlotEvent.Marks (e : SlotEvent) (q : ReadQuery) (cells cells' : Cells) : Prop
  | untouched (hempties : ¬ e.Empties q) (hfills : ¬ e.Fills q)
      (hcached : q.cached? cells' = q.cached? cells)
      (hparameter : cells'.parameters[q.cell]? = cells.parameters[q.cell]?)
  | emptied (hempties : e.Empties q) (hfills : ¬ e.Fills q) (hcached : q.cached? cells' = none)
  | filled {command : Command} {container : Container} {v : Value}
      (he : e = .took (.read q) command container) (hv : q.valueOf container = .ok v)
      (hcached : q.cached? cells' = some v)
      (hasked : command.IsAbout q.command q.code q.object cells'.parameters[q.cell]?)

namespace Coherent

variable {reads : Set ReadQuery} {history : List SlotEvent} {cells cells' : Cells}

/-- Reads of which nothing is known have no history. -/
theorem start (h : ∀ q ∈ reads, cells.parameters[q.cell]? = none ∧ q.cached? cells = none) :
    Coherent reads [] cells where
  cached_iff := by
    intro q hq v
    rw [(h q hq).2]
    constructor
    · intro hv
      cases hv
    · rintro ⟨command, container, hlast, -⟩
      exact absurd hlast not_lastAnswer_nil
  asked := by
    intro q hq command container hlast
    exact absurd hlast not_lastAnswer_nil
  never_given := by
    intro q hq
    simp [(h q hq).1]

/-- What leaves the slots of the reads alone is not part of their history. -/
theorem congr (h : Coherent reads history cells)
    (hcached : ∀ q ∈ reads, q.cached? cells' = q.cached? cells)
    (hparameter : ∀ q ∈ reads, cells'.parameters[q.cell]? = cells.parameters[q.cell]?) :
    Coherent reads history cells' where
  cached_iff := by
    intro q hq v
    rw [hcached q hq]
    exact h.cached_iff q hq v
  asked := by
    intro q hq command container hlast
    rw [hparameter q hq]
    exact h.asked q hq command container hlast
  never_given := by
    intro q hq
    rw [hparameter q hq]
    exact h.never_given q hq

/-- Coherence goes on after an event that every read remembers as it should. -/
theorem concat {e : SlotEvent} (h : Coherent reads history cells)
    (hmarks : ∀ q ∈ reads, e.Marks q cells cells')
    (hgiven : ∀ q ∈ reads, cells'.parameters[q.cell]? = none ↔
      cells.parameters[q.cell]? = none ∧ ∀ before v, e ≠ .given q before v) :
    Coherent reads (history ++ [e]) cells' where
  cached_iff := by
    intro q hq v
    have hnew : ¬ e.Fills q → ∀ command container, e ≠ .took (.read q) command container :=
      fun hfills command container he => hfills ⟨command, container, he⟩
    cases hmarks q hq with
    | untouched hempties hfills hcached hparameter =>
      simp only [hcached, h.cached_iff q hq, lastAnswer_concat, hnew hfills, hempties, hfills,
        not_false_iff, and_true, false_or]
    | emptied hempties hfills hcached =>
      simp [hcached, lastAnswer_concat, hnew hfills, hempties]
    | @filled command container v' he hv hcached hasked =>
      rw [hcached]
      constructor
      · intro hsome
        cases hsome
        exact ⟨command, container, lastAnswer_concat.mpr (Or.inl he), hv⟩
      · rintro ⟨command', container', hlast, hvalue⟩
        rcases lastAnswer_concat.mp hlast with he' | ⟨-, -, hnot⟩
        · cases he.symm.trans he'
          rw [hv] at hvalue
          cases hvalue
          rfl
        · exact absurd ⟨command, container, he⟩ hnot
  asked := by
    intro q hq command container hlast
    cases hmarks q hq with
    | untouched hempties hfills hcached hparameter =>
      rcases lastAnswer_concat.mp hlast with rfl | ⟨hbefore, -, -⟩
      · exact absurd (SlotEvent.fills_took q command container) hfills
      · rw [hparameter]
        exact h.asked q hq command container hbefore
    | emptied hempties hfills hcached =>
      rcases lastAnswer_concat.mp hlast with rfl | ⟨-, hnot, -⟩
      · exact absurd (SlotEvent.fills_took q command container) hfills
      · exact absurd hempties hnot
    | @filled command' container' v' he hv hcached hasked =>
      rcases lastAnswer_concat.mp hlast with he' | ⟨-, -, hnot⟩
      · cases he.symm.trans he'
        exact hasked
      · exact absurd ⟨command', container', he⟩ hnot
  never_given := by
    intro q hq
    rw [hgiven q hq, h.never_given q hq]
    simp only [List.mem_append, List.mem_singleton, not_or, ne_comm (a := e), forall_and]

end Coherent

/-! ### Single events -/

namespace Coherent

variable {reads : Set ReadQuery} {history : List SlotEvent} {cells : Cells}

/-- A query makes something of a container. -/
theorem took (h : Coherent reads history cells) (hcells : Set.InjOn ReadQuery.cell reads)
    {q : Query} {command : Command} {container : Container} {e : Effect}
    (hreads : ∀ r, q = .read r → r ∈ reads)
    (hasked : ∀ r, q = .read r → command.IsAbout r.command r.code r.object cells.parameters[r.cell]?)
    (heffect : q.effectOf container = .ok e) :
    Coherent reads (history ++ [.took q command container]) (e.apply cells) := by
  refine h.concat ?_ ?_
  · intro p hp
    -- queries that are neither reads nor changes have nothing to do with slots
    have hother : (∀ r, q ≠ .read r) → (∀ r, q ≠ .change r) →
        (e.apply cells).cached[p.cell]? = cells.cached[p.cell]? →
        (SlotEvent.took q command container).Marks p cells (e.apply cells) := by
      intro hread hchange hcached
      refine .untouched ?_ ?_ hcached (by rw [e.parameters_apply])
      · cases q with
        | change r => exact absurd rfl (hchange r)
        | _ => exact id
      · rintro ⟨command', container', he⟩
        cases he
        exact hread p rfl
    cases q with
    | read r =>
      obtain ⟨v, hv, rfl⟩ := Except.map_eq_ok_iff.mp heffect
      have hcached : p.cached? (cells.keep r.cell v) =
          if r.cell = p.cell then some v else p.cached? cells := cells.cached_keep r.cell v p.cell
      by_cases hrp : r = p
      · subst hrp
        refine .filled rfl hv (hcached.trans (if_pos rfl)) ?_
        rw [Effect.parameters_apply]
        exact hasked r rfl
      · have hcell : r.cell ≠ p.cell := fun heq => hrp (hcells (hreads r rfl) hp heq)
        refine .untouched id ?_ (hcached.trans (if_neg hcell)) rfl
        rintro ⟨command', container', he⟩
        cases he
        exact hrp rfl
    | change r =>
      obtain ⟨_, -, rfl⟩ := Except.map_eq_ok_iff.mp heffect
      have hfills : ¬ (SlotEvent.took (.change r) command container).Fills p := by
        rintro ⟨command', container', he⟩
        cases he
      have hcached : p.cached? (cells.forgetAll r.outdates) =
          if p.cell ∈ r.outdates then none else p.cached? cells :=
        cells.cached_forgetAll r.outdates p.cell
      by_cases hmem : p.cell ∈ r.outdates
      · exact .emptied hmem hfills (hcached.trans (if_pos hmem))
      · refine .untouched hmem hfills (hcached.trans (if_neg hmem)) ?_
        rw [Effect.parameters_apply]
    | step cell =>
      refine hother (by simp) (by simp) ?_
      rw [Query.effectOf] at heffect
      split at heffect
      · cases heffect
        rfl
      · cases heffect
    | version cell =>
      obtain ⟨_, -, rfl⟩ := Except.map_eq_ok_iff.mp heffect
      exact hother (by simp) (by simp) rfl
    | close | raw =>
      cases heffect
      exact hother (by simp) (by simp) rfl
  · intro p _
    rw [e.parameters_apply]
    simp

/-- A read forgets its answer. -/
theorem forget (h : Coherent reads history cells) (hcells : Set.InjOn ReadQuery.cell reads)
    {q : ReadQuery} (hq : q ∈ reads) {e : SlotEvent} (hempties : ∀ p, e.Empties p ↔ q = p)
    (hfills : ∀ p, ¬ e.Fills p) (hgiven : ∀ p before v, e ≠ .given p before v) :
    Coherent reads (history ++ [e]) (cells.forget q.cell) := by
  refine h.concat ?_ ?_
  · intro p hp
    have hcached : p.cached? (cells.forget q.cell) =
        if q.cell = p.cell then none else p.cached? cells := cells.cached_forget q.cell p.cell
    by_cases hqp : q = p
    · subst hqp
      exact .emptied ((hempties q).mpr rfl) (hfills q) (hcached.trans (if_pos rfl))
    · have hcell : q.cell ≠ p.cell := fun heq => hqp (hcells hq hp heq)
      exact .untouched (mt (hempties p).mp hqp) (hfills p) (hcached.trans (if_neg hcell)) rfl
  · intro p _
    rw [cells.parameters_forget]
    simp [hgiven p]

/-- A read is given a parameter. -/
theorem given (h : Coherent reads history cells) (hcells : Set.InjOn ReadQuery.cell reads)
    {q : ReadQuery} (hq : q ∈ reads) (v : Value) :
    Coherent reads (history ++ [.given q cells.parameters[q.cell]? v])
      (cells.setParameter q.cell v) := by
  have hfills : ∀ p, ¬ (SlotEvent.given q cells.parameters[q.cell]? v).Fills p := by
    rintro p ⟨command, container, he⟩
    cases he
  cases hsame : cells.parameters[q.cell]?.any (·.same v) with
  | true =>
    rw [Cells.setParameter_of_same hsame]
    refine h.concat ?_ ?_
    · intro p hp
      refine .untouched ?_ (hfills p) rfl rfl
      rintro ⟨-, hdiffers⟩
      rw [hsame] at hdiffers
      cases hdiffers
    · intro p hp
      refine ⟨fun hnone => ⟨hnone, ?_⟩, And.left⟩
      rintro before v' he
      cases he
      rw [hnone] at hsame
      cases hsame
  | false =>
    refine h.concat ?_ ?_
    · intro p hp
      by_cases hqp : q = p
      · subst hqp
        exact .emptied ⟨rfl, hsame⟩ (hfills q) ((Cells.cached_setParameter hsame _).trans (if_pos rfl))
      · have hcell : q.cell ≠ p.cell := fun heq => hqp (hcells hq hp heq)
        refine .untouched (fun hempties => hqp hempties.1) (hfills p) ?_ ?_
        · exact (Cells.cached_setParameter hsame p.cell).trans (if_neg hcell)
        · rw [Cells.parameters_setParameter hsame, if_neg hcell]
    · intro p hp
      rw [Cells.parameters_setParameter hsame]
      by_cases hqp : q = p
      · subst hqp
        simp
      · have hcell : q.cell ≠ p.cell := fun heq => hqp (hcells hq hp heq)
        simp [hcell, hqp]

end Coherent

end TrafficControl
