import Mathlib.Tactic.SplitIfs
import TrafficControl.Proofs.CommandLine.Questions
import TrafficControl.Proofs.Traffic.Reported

/-!
# Visits to a simulator

A `Visit` is all that a simulator says to a session that is not interrupted: how long a step is, what it
starts with, its version, and for each round what happened and how many vehicles are still expected. It
settles what the session asks, in which order (`Visit.exchanges`), how many rounds there are
(`Visit.Fits`), and what is printed (`Visit.lines`).

* `Round.Complete`, `Round.complete_succ_cons`: when there are no more rounds.
* `printed`, `printed_tick`: the lines of the ticks that were answered, quiet ones left out unless the lines
  are JSON.
* `Completes`, `BreaksOff`: by what exchanges a session may be completed, and where it may break off.
* `Visit.Fits.alike`: two visits that fit a session ask the same until they get different answers. Hence no
  question of one visit is refused where the other one went through (`Alike.not_refuses`).
-/

namespace TrafficControl

/-! ### What happens at a step -/

namespace StepEvents

/-- Something happened. -/
def Eventful (e : StepEvents) : Prop :=
  e.departed ≠ [] ∨ e.arrived ≠ [] ∨ e.teleportStarted ≠ [] ∨ e.teleportEnded ≠ []

instance : DecidablePred Eventful := fun e => inferInstanceAs
  (Decidable (e.departed ≠ [] ∨ e.arrived ≠ [] ∨ e.teleportStarted ≠ [] ∨ e.teleportEnded ≠ []))

variable {e : StepEvents}

theorem not_eventful_iff : ¬ e.Eventful ↔ e.isQuiet = true := by
  simp [Eventful, isQuiet, and_assoc]

theorem report_of_eventful (h : e.Eventful) : e.report false = [e.columns] := by
  have hquiet : ¬ e.isQuiet = true := fun hquiet => not_eventful_iff.mpr hquiet h
  unfold report
  rw [if_neg Bool.false_ne_true, if_neg hquiet]

theorem report_of_not_eventful (h : ¬ e.Eventful) : e.report false = [] := by
  unfold report
  rw [if_neg Bool.false_ne_true, if_pos (not_eventful_iff.mp h)]

end StepEvents

namespace Session

/-! ### Rounds -/

/-- What a simulator says about one step: what happened, and how many vehicles are still expected. -/
structure Round where
  answer : TickAnswer
  expected : Int32

namespace Round

/-- The exchanges of rounds that follow each other. Each tick goes on from the time that was told last, by
the length of a step. -/
def exchanges (length : Binary64) : Binary64 → List Round → List Exchange
  | _, [] => []
  | clock, r :: rounds =>
    ⟨.tick (clock + length), r.answer⟩ :: ⟨.expected, r.expected⟩ ::
      exchanges length r.answer.time rounds

/-- There are as many rounds as are wanted, or as many as it takes until nobody is expected any more,
whichever is less. -/
def Complete (steps : Nat) (rounds : List Round) : Prop :=
  rounds.length = min steps ((rounds.map expected).idxOf 0 + 1)

variable {steps : Nat} {rounds : List Round} {r : Round}

@[simp] theorem complete_zero : Complete 0 rounds ↔ rounds = [] := by
  simp [Complete]

@[simp] theorem not_complete_succ_nil : ¬ Complete (steps + 1) [] := by
  simp [Complete]

theorem complete_succ_cons :
    Complete (steps + 1) (r :: rounds) ↔ if r.expected = 0 then rounds = [] else Complete steps rounds := by
  unfold Complete
  rw [List.map_cons, List.length_cons, List.idxOf_cons]
  by_cases hzero : r.expected = 0
  · simp [hzero]
  · have hbeq : (r.expected == 0) = false := beq_eq_false_iff_ne.mpr hzero
    rw [hbeq, if_neg hzero, cond_false]
    omega

/-- Whatever number of steps is wanted, there are rounds that complete it. -/
theorem exists_complete (steps : Nat) : ∃ rounds, Complete steps rounds := by
  cases steps with
  | zero => exact ⟨[], complete_zero.mpr rfl⟩
  | succ steps =>
    refine ⟨[⟨⟨.zero, ∅, ∅, ∅, []⟩, 0⟩], complete_succ_cons.mpr ?_⟩
    simp

theorem length_exchanges (length clock : Binary64) (rounds : List Round) :
    (exchanges length clock rounds).length = 2 * rounds.length := by
  induction rounds generalizing clock with
  | nil => rfl
  | cons r rounds ih =>
    rw [exchanges, List.length_cons, List.length_cons, List.length_cons, ih]
    omega

end Round

/-! ### Visits -/

/-- All that a simulator says to a session. -/
structure Visit where
  stepLength : Binary64
  /-- The time at which the session starts. -/
  time : Binary64
  /-- The vehicles that are there already. -/
  active : IdSet
  version : Int32 × String
  rounds : List Round

/-- The first exchange, unless the length of a step is given. -/
def opening (given : Option Binary64) (length : Binary64) : List Exchange :=
  match given with
  | none => [⟨.stepLength, length⟩]
  | some _ => []

/-- The exchanges by the time the rounds begin. -/
def preamble (given : Option Binary64) (length time : Binary64) (active : IdSet)
    (version : Int32 × String) : List Exchange :=
  opening given length ++ [⟨.bootstrap, (time, active)⟩, ⟨.version, version⟩]

/-- What was said about the ticks. -/
def ticks (xs : List Exchange) : List TickAnswer :=
  xs.filterMap fun
    | ⟨.tick _, a⟩ => some a
    | _ => none

/-- The lines printed by the time these exchanges have been made, if the lifecycle started like this: as JSON
one for each tick that was answered, and otherwise one, in columns, for each at which something happened. -/
def printed (json : Bool) (l : Lifecycle) (xs : List Exchange) : List String :=
  if json then (l.reported (ticks xs)).map StepEvents.json
  else ((l.reported (ticks xs)).filter fun e => e.Eventful).map StepEvents.columns

/-- Nothing is printed before the first tick is answered. -/
theorem printed_eq_nil (json : Bool) (l : Lifecycle) {xs : List Exchange} (h : ticks xs = []) :
    printed json l xs = [] := by
  unfold printed
  rw [h]
  cases json <;> rfl

/-- What a tick prints stands in front of what the later ones print. -/
theorem printed_tick (json : Bool) (l : Lifecycle) (target : Binary64) (a : TickAnswer)
    (xs : List Exchange) :
    printed json l (⟨.tick target, a⟩ :: xs) =
      (l.events a).report json ++ printed json (l.after a) xs := by
  have hreported : l.reported (ticks (⟨.tick target, a⟩ :: xs)) =
      l.events a :: (l.after a).reported (ticks xs) := rfl
  unfold printed
  rw [hreported]
  cases json with
  | true => rfl
  | false =>
    by_cases heventful : (l.events a).Eventful
    · rw [StepEvents.report_of_eventful heventful]
      simp [heventful]
    · rw [StepEvents.report_of_not_eventful heventful]
      simp [heventful]

theorem printed_expected (json : Bool) (l : Lifecycle) (n : Int32) (xs : List Exchange) :
    printed json l (⟨.expected, n⟩ :: xs) = printed json l xs := rfl

theorem printed_preamble_append (json : Bool) (l : Lifecycle) (given : Option Binary64)
    (length time : Binary64) (active : IdSet) (version : Int32 × String) (xs : List Exchange) :
    printed json l (preamble given length time active version ++ xs) = printed json l xs := by
  cases given <;> rfl

theorem printed_append_close (json : Bool) (l : Lifecycle) (xs : List Exchange) :
    printed json l (xs ++ [⟨.close, ()⟩]) = printed json l xs := by
  have hticks : ticks (xs ++ [⟨.close, ()⟩]) = ticks xs := by
    unfold ticks
    rw [List.filterMap_append]
    exact List.append_nil _
  rw [printed, printed, hticks]

theorem printed_congr {l l' : Lifecycle} (h : l.SameFleet l') (json : Bool) (xs : List Exchange) :
    printed json l xs = printed json l' xs := by
  unfold printed
  rw [h.reported_eq]

namespace Visit

/-- The exchanges of a visit, in order. -/
def exchanges (given : Option Binary64) (v : Visit) : List Exchange :=
  preamble given v.stepLength v.time v.active v.version ++
    (Round.exchanges v.stepLength v.time v.rounds ++ [⟨.close, ()⟩])

/-- A session with this many steps, for which the length of a step is given or not, may take this
course. -/
structure Fits (given : Option Binary64) (steps : Nat) (v : Visit) : Prop where
  stepLength : ∀ length, given = some length → v.stepLength = length
  complete : Round.Complete steps v.rounds

/-- Where the lifecycle stands when the vehicles that are there already are taken over. -/
def start (v : Visit) : Lifecycle := (Question.lifecycle.takeOver v.time v.active {}).1

/-- The lines printed by the time these exchanges have been made. -/
def lines (json : Bool) (v : Visit) (xs : List Exchange) : List String := printed json v.start xs

/-- Two exchanges to a round, and three or four others. -/
theorem length_exchanges (given : Option Binary64) (v : Visit) :
    (v.exchanges given).length = 2 * v.rounds.length + 3 + if given = none then 1 else 0 := by
  have hrounds := Round.length_exchanges v.stepLength v.time v.rounds
  unfold exchanges preamble opening
  cases given with
  | none => simp [hrounds]
  | some length => simp [hrounds]

/-- However a session starts, it may take a course. -/
theorem exists_fits {given : Option Binary64} (steps : Nat) (length time : Binary64) (active : IdSet)
    (version : Int32 × String) (h : ∀ g, given = some g → length = g) :
    ∃ rounds, Fits given steps ⟨length, time, active, version, rounds⟩ := by
  obtain ⟨rounds, hcomplete⟩ := Round.exists_complete steps
  exact ⟨rounds, h, hcomplete⟩

end Visit

/-! ### Where rounds may come to -/

namespace Round

/-- Rounds may be completed by these exchanges, with these lines printed. -/
def Completes (length : Binary64) (steps : Nat) (json : Bool) (l : Lifecycle) (xs : List Exchange)
    (lines : List String) : Prop :=
  ∃ rounds, Complete steps rounds ∧ xs = exchanges length l.clock rounds ∧ lines = printed json l xs

/-- Rounds may break off with this question after these exchanges, with these lines printed. -/
def BreaksOff (length : Binary64) (steps : Nat) (json : Bool) (l : Lifecycle) (xs : List Exchange)
    (q : Question) (lines : List String) : Prop :=
  ∃ (rounds : List Round) (a : q.Answer) (later : List Exchange), Complete steps rounds ∧
    exchanges length l.clock rounds = xs ++ ⟨q, a⟩ :: later ∧ lines = printed json l xs

variable {length : Binary64} {steps : Nat} {json : Bool} {l l' : Lifecycle} {a : TickAnswer} {n : Int32}
  {xs : List Exchange} {q : Question} {lines : List String}

theorem Completes.congr (h : l.SameFleet l') (hdone : Completes length steps json l xs lines) :
    Completes length steps json l' xs lines := by
  unfold Completes at hdone ⊢
  rwa [← h.clock, ← printed_congr h]

theorem BreaksOff.congr (h : l.SameFleet l') (hbroken : BreaksOff length steps json l xs q lines) :
    BreaksOff length steps json l' xs q lines := by
  unfold BreaksOff at hbroken ⊢
  rwa [← h.clock, ← printed_congr h]

theorem completes_nil : Completes length 0 json l [] [] :=
  ⟨[], complete_zero.mpr rfl, rfl, (printed_eq_nil json l rfl).symm⟩

/-- The rounds are over when nobody is expected any more. -/
theorem completes_last (l : Lifecycle) (a : TickAnswer) :
    Completes length (steps + 1) json l [⟨.tick (l.clock + length), a⟩, ⟨.expected, (0 : Int32)⟩]
      ((l.events a).report json) := by
  refine ⟨[⟨a, 0⟩], complete_succ_cons.mpr ?_, rfl, ?_⟩
  · simp
  · rw [printed_tick, printed_expected, printed_eq_nil json _ rfl, List.append_nil]

/-- Otherwise they go on from where the tick has led. -/
theorem Completes.cons (hn : n ≠ 0) (h : Completes length steps json (l.after a) xs lines) :
    Completes length (steps + 1) json l (⟨.tick (l.clock + length), a⟩ :: ⟨.expected, n⟩ :: xs)
      ((l.events a).report json ++ lines) := by
  obtain ⟨rounds, hcomplete, rfl, rfl⟩ := h
  refine ⟨⟨a, n⟩ :: rounds, complete_succ_cons.mpr ?_, rfl, ?_⟩
  · rwa [if_neg hn]
  · rw [printed_tick, printed_expected]

theorem breaksOff_tick (l : Lifecycle) :
    BreaksOff length (steps + 1) json l [] (.tick (l.clock + length)) [] := by
  refine ⟨[⟨⟨.zero, ∅, ∅, ∅, []⟩, 0⟩], _, [⟨.expected, (0 : Int32)⟩], complete_succ_cons.mpr ?_, rfl,
    (printed_eq_nil json l rfl).symm⟩
  simp

/-- The line of a tick is printed before anything else is asked. -/
theorem breaksOff_expected (l : Lifecycle) (a : TickAnswer) :
    BreaksOff length (steps + 1) json l [⟨.tick (l.clock + length), a⟩] .expected
      ((l.events a).report json) := by
  refine ⟨[⟨a, 0⟩], (0 : Int32), [], complete_succ_cons.mpr ?_, rfl, ?_⟩
  · simp
  · rw [printed_tick, printed_eq_nil json _ rfl, List.append_nil]

theorem BreaksOff.cons (hn : n ≠ 0) (h : BreaksOff length steps json (l.after a) xs q lines) :
    BreaksOff length (steps + 1) json l (⟨.tick (l.clock + length), a⟩ :: ⟨.expected, n⟩ :: xs) q
      ((l.events a).report json ++ lines) := by
  obtain ⟨rounds, b, later, hcomplete, hsplit, rfl⟩ := h
  refine ⟨⟨a, n⟩ :: rounds, b, later, complete_succ_cons.mpr ?_, ?_, ?_⟩
  · rwa [if_neg hn]
  · rw [exchanges, List.cons_append, List.cons_append, ← hsplit]
    rfl
  · rw [printed_tick, printed_expected]

end Round

/-! ### Where a session may come to -/

/-- A session with this many steps may be completed by these exchanges, with these lines printed. -/
def Completes (given : Option Binary64) (steps : Nat) (json : Bool) (xs : List Exchange)
    (lines : List String) : Prop :=
  ∃ v : Visit, v.Fits given steps ∧ xs = v.exchanges given ∧ lines = v.lines json xs

/-- A session with this many steps may break off with this question after these exchanges, with these
lines printed. -/
def BreaksOff (given : Option Binary64) (steps : Nat) (json : Bool) (xs : List Exchange) (q : Question)
    (lines : List String) : Prop :=
  ∃ (v : Visit) (a : q.Answer) (later : List Exchange), v.Fits given steps ∧
    v.exchanges given = xs ++ ⟨q, a⟩ :: later ∧ lines = v.lines json xs

theorem breaksOff_stepLength (steps : Nat) (json : Bool) : BreaksOff none steps json [] .stepLength [] := by
  obtain ⟨rounds, hfits⟩ := Visit.exists_fits steps .zero .zero ∅ (0, "") (nofun : ∀ g, none = some g → _)
  exact ⟨_, _, _, hfits, rfl, (printed_eq_nil json _ rfl).symm⟩

section Stages

variable {given : Option Binary64} {steps : Nat} {json : Bool} {length time : Binary64} {active : IdSet}
  {xs : List Exchange} {q : Question} {lines : List String}
  (hlength : ∀ g, given = some g → length = g)

include hlength

theorem breaksOff_bootstrap (steps : Nat) (json : Bool) :
    BreaksOff given steps json (opening given length) .bootstrap [] := by
  obtain ⟨rounds, hfits⟩ := Visit.exists_fits steps length .zero ∅ (0, "") hlength
  refine ⟨_, (.zero, ∅), ⟨.version, ((0 : Int32), "")⟩ ::
    (Round.exchanges length .zero rounds ++ [⟨.close, ()⟩]), hfits, ?_, ?_⟩
  · rw [Visit.exchanges, preamble, List.append_assoc]
    rfl
  · cases given <;> exact (printed_eq_nil json _ rfl).symm

theorem breaksOff_version (steps : Nat) (json : Bool) (time : Binary64) (active : IdSet) :
    BreaksOff given steps json (opening given length ++ [⟨.bootstrap, (time, active)⟩]) .version [] := by
  obtain ⟨rounds, hfits⟩ := Visit.exists_fits steps length time active (0, "") hlength
  refine ⟨_, ((0 : Int32), ""), Round.exchanges length time rounds ++ [⟨.close, ()⟩], hfits, ?_, ?_⟩
  · rw [Visit.exchanges, preamble, List.append_assoc, List.append_assoc]
    rfl
  · cases given <;> exact (printed_eq_nil json _ rfl).symm

variable (version : Int32 × String)

/-- A session may break off where its rounds may. -/
theorem Round.BreaksOff.session
    (h : Round.BreaksOff length steps json (Question.lifecycle.takeOver time active {}).1 xs q lines) :
    Session.BreaksOff given steps json (preamble given length time active version ++ xs) q lines := by
  obtain ⟨rounds, a, later, hcomplete, hsplit, rfl⟩ := h
  refine ⟨⟨length, time, active, version, rounds⟩, a, later ++ [⟨.close, ()⟩], ⟨hlength, hcomplete⟩, ?_, ?_⟩
  · have hrounds : Round.exchanges length time rounds = xs ++ ⟨q, a⟩ :: later := hsplit
    rw [Visit.exchanges, hrounds, List.append_assoc, List.append_assoc, List.cons_append]
  · exact (printed_preamble_append _ _ _ _ _ _ _ _).symm

/-- When the rounds are over, all that is left to ask is to shut down. -/
theorem Round.Completes.breaksOff
    (h : Round.Completes length steps json (Question.lifecycle.takeOver time active {}).1 xs lines) :
    Session.BreaksOff given steps json (preamble given length time active version ++ xs) .close lines := by
  obtain ⟨rounds, hcomplete, rfl, rfl⟩ := h
  refine ⟨⟨length, time, active, version, rounds⟩, (), [], ⟨hlength, hcomplete⟩, ?_, ?_⟩
  · rw [Visit.exchanges, List.append_assoc]
    rfl
  · exact (printed_preamble_append _ _ _ _ _ _ _ _).symm

theorem Round.Completes.session
    (h : Round.Completes length steps json (Question.lifecycle.takeOver time active {}).1 xs lines) :
    Session.Completes given steps json
      (preamble given length time active version ++ (xs ++ [⟨.close, ()⟩])) lines := by
  obtain ⟨rounds, hcomplete, rfl, rfl⟩ := h
  refine ⟨⟨length, time, active, version, rounds⟩, ⟨hlength, hcomplete⟩, rfl, ?_⟩
  rw [Visit.lines, printed_preamble_append, printed_append_close]
  rfl

end Stages

/-! ### Courses that part at an answer -/

/-- Two courses are the same, or the first difference is one between two answers to a question. -/
inductive Alike : List Exchange → List Exchange → Prop
  | nil : Alike [] []
  | cons (x : Exchange) {xs ys : List Exchange} (h : Alike xs ys) : Alike (x :: xs) (x :: ys)
  | fork (q : Question) {a b : q.Answer} (h : a ≠ b) (xs ys : List Exchange) :
    Alike (⟨q, a⟩ :: xs) (⟨q, b⟩ :: ys)

namespace Alike

/-- After a question that both ask, it is enough to look at the case that both get the same answer. -/
theorem ask (q : Question) (a b : q.Answer) {xs ys : List Exchange} (h : a = b → Alike xs ys) :
    Alike (⟨q, a⟩ :: xs) (⟨q, b⟩ :: ys) := by
  by_cases hab : a = b
  · subst hab
    exact .cons _ (h rfl)
  · exact .fork q hab xs ys

variable {σ : Type} [Link σ]

/-- A question that is asked on one course is not refused where the other one went through. -/
theorem not_refuses {l l₁ l₂ l₃ : σ} {done later ys : List Exchange} {x : Exchange}
    (h : Alike (done ++ x :: later) ys) (hthrough : Converses l ys l₁) (hdone : Converses l done l₂) :
    ¬ Refuses x.1 l₂ l₃ := by
  induction hdone generalizing ys with
  | nil l =>
    rw [List.nil_append] at h
    cases h with
    | cons => exact hthrough.not_refuses
    | @fork q a b => exact Converses.not_refuses (x := ⟨q, b⟩) hthrough
  | @cons l l₁' l₂ y done reply htransact hanswered _ ih =>
    rw [List.cons_append] at h
    cases h with
    | cons _ h =>
      cases hthrough with | cons htransact' hanswered' hrest => ?_
      cases htransact.symm.trans htransact'
      exact ih h hrest
    | fork q hab =>
      cases hthrough with | cons htransact' hanswered' hrest => ?_
      cases htransact.symm.trans htransact'
      exact absurd (hanswered.unique hanswered') hab

end Alike

/-- Two numbers of rounds that are both complete ask the same until they get different answers. -/
theorem Round.Complete.alike {steps : Nat} {rounds rounds' : List Round} (h : Complete steps rounds)
    (h' : Complete steps rounds') (length clock : Binary64) (last : List Exchange) :
    Alike (exchanges length clock rounds ++ last) (exchanges length clock rounds' ++ last) := by
  have hsame : ∀ xs : List Exchange, Alike xs xs := by
    intro xs
    induction xs with
    | nil => exact .nil
    | cons x xs ih => exact .cons x ih
  induction steps generalizing rounds rounds' clock with
  | zero =>
    rw [complete_zero.mp h, complete_zero.mp h']
    exact hsame _
  | succ steps ih =>
    cases rounds with
    | nil => exact absurd h not_complete_succ_nil
    | cons r rounds =>
      cases rounds' with
      | nil => exact absurd h' not_complete_succ_nil
      | cons r' rounds' =>
        rw [complete_succ_cons] at h h'
        apply Alike.ask
        intro hanswer
        apply Alike.ask
        intro hexpected
        rw [hexpected] at h
        rw [hanswer]
        split_ifs at h h' with hzero
        · rw [h, h']
          exact hsame _
        · exact ih h h' _

/-- Two visits that fit the same session ask the same until they get different answers. -/
theorem Visit.Fits.alike {given : Option Binary64} {steps : Nat} {v w : Visit} (hv : v.Fits given steps)
    (hw : w.Fits given steps) : Alike (v.exchanges given) (w.exchanges given) := by
  have hrest : v.stepLength = w.stepLength → Alike
      (⟨.bootstrap, (v.time, v.active)⟩ :: ⟨.version, v.version⟩ ::
        (Round.exchanges v.stepLength v.time v.rounds ++ [⟨.close, ()⟩]))
      (⟨.bootstrap, (w.time, w.active)⟩ :: ⟨.version, w.version⟩ ::
        (Round.exchanges w.stepLength w.time w.rounds ++ [⟨.close, ()⟩])) := by
    intro hlength
    apply Alike.ask
    intro hstart
    apply Alike.ask
    intro _
    rw [hlength, (Prod.mk.inj hstart).1]
    exact hv.complete.alike hw.complete _ _ _
  unfold Visit.exchanges preamble opening
  cases given with
  | none =>
    apply Alike.ask
    exact hrest
  | some length => exact hrest ((hv.stepLength length rfl).trans (hw.stepLength length rfl).symm)

end Session

end TrafficControl
