import Mathlib.Algebra.Group.Nat.Defs
import TrafficControl.Transport.Connecting

/-!
# The attempts to connect

Connecting makes attempt after attempt, until one succeeds, the process is found dead or cannot be looked
at, or no attempt is left. An attempt that fails and is followed by another one has a pause after it.

* `Surroundings.EndsWith`: the ways in which connecting ends with an attempt.
* `Surroundings.retries`: what is done until then.
* `Preceded`: what can be said of the steps that stand before a step.
* `establish_course`: the whole trace, the outcome, and what follows for looks, attempts and pauses.
-/

namespace TrafficControl

/-! ### Steps and what stands before them -/

/-- How long a step pauses. -/
def ConnectStep.pause? : ConnectStep → Option Nat
  | .pause milliseconds => some milliseconds
  | _ => none

/-- The pauses of a trace, in order. -/
def pausesOf (trace : List ConnectStep) : List Nat := trace.filterMap ConnectStep.pause?

/-- Each step of a trace has before it what it needs. -/
def Preceded (needs : ConnectStep → List ConnectStep → Prop) (trace : List ConnectStep) : Prop :=
  ∀ before step after, trace = before ++ step :: after → needs step before

namespace Preceded

variable {needs : ConnectStep → List ConnectStep → Prop} {trace : List ConnectStep}

theorem nil : Preceded needs [] := by
  intro before step after h
  simp at h

theorem concat (h : Preceded needs trace) {step : ConnectStep} (hstep : needs step trace) :
    Preceded needs (trace ++ [step]) := by
  intro before step' after heq
  rcases List.eq_nil_or_concat after with rfl | ⟨after, last, rfl⟩
  · obtain ⟨rfl, hlast⟩ := List.append_inj' heq rfl
    simp only [List.cons.injEq, and_true] at hlast
    exact hlast ▸ hstep
  · rw [List.concat_eq_append, ← List.cons_append, ← List.append_assoc] at heq
    exact h before step' after (List.append_inj' heq rfl).1

end Preceded

namespace Surroundings

variable {α : Type} {s : Surroundings α} {p : RetryPolicy} {address : String}

/-! ### Single attempts -/

/-- The process is alive before an attempt, if there is one. -/
def Alive (s : Surroundings α) (attempt : Nat) : Prop :=
  ∀ poll, s.process = some poll → poll attempt = .alive

/-- An attempt is made, and it fails. -/
def Fails (s : Surroundings α) (attempt : Nat) : Prop :=
  s.Alive attempt ∧ ∃ fault, s.opened attempt = .error fault

/-- How connecting ends with an attempt, and what is done then. -/
inductive EndsWith (s : Surroundings α) (address : String) (attempts attempt : Nat) :
    Except ClientError α → List ConnectStep → Prop
  /-- The process could not be looked at. -/
  | unseen {poll : Nat → Poll} {fault : Fault} (hprocess : s.process = some poll)
      (h : poll attempt = .failed fault) :
      EndsWith s address attempts attempt (.error (.transport fault)) [.poll]
  | exited {poll : Nat → Poll} {status : String} (hprocess : s.process = some poll)
      (h : poll attempt = .exited status) :
      EndsWith s address attempts attempt (.error (.processExited status)) [.poll]
  | connected {a : α} (halive : s.Alive attempt) (h : s.opened attempt = .ok a) :
      EndsWith s address attempts attempt (.ok a) (s.polls ++ [.attempt])
  /-- The last attempt failed. -/
  | exhausted {fault : Fault} (halive : s.Alive attempt) (h : s.opened attempt = .error fault)
      (hlast : attempt + 1 = attempts) :
      EndsWith s address attempts attempt (.error (.connectFailed address attempts fault))
        (s.polls ++ [.attempt])

theorem polls_of_some {poll : Nat → Poll} (h : s.process = some poll) : s.polls = [.poll] := by
  simp [polls, h]

/-- Either nothing keeps an attempt from being made, or connecting ends with a look at the process. -/
theorem refusal?_cases (s : Surroundings α) (address : String) (attempts attempt : Nat) :
    (s.refusal? attempt = none ∧ s.Alive attempt) ∨
    ∃ e, s.refusal? attempt = some e ∧ s.EndsWith address attempts attempt (.error e) s.polls := by
  rcases hprocess : s.process with _ | poll
  · left
    simp [refusal?, Alive, hprocess]
  · rw [polls_of_some hprocess]
    cases hpoll : poll attempt with
    | alive =>
      left
      simp [refusal?, Alive, hprocess, hpoll]
    | exited status =>
      have hrefusal : s.refusal? attempt = some (.processExited status) := by
        simp [refusal?, hprocess, hpoll]
      exact Or.inr ⟨_, hrefusal, .exited hprocess hpoll⟩
    | failed fault =>
      have hrefusal : s.refusal? attempt = some (.transport fault) := by
        simp [refusal?, hprocess, hpoll]
      exact Or.inr ⟨_, hrefusal, .unseen hprocess hpoll⟩

/-- An attempt fails, or connecting ends with it whatever is left. -/
theorem attemptOnce_cases (s : Surroundings α) (address : String) (attempts attempt : Nat) :
    (∃ fault, attemptOnce address s attempt = .failed fault ∧ s.Alive attempt ∧
      s.opened attempt = .error fault) ∨
    ∃ e, attemptOnce address s attempt = .final e ∧
      s.EndsWith address attempts attempt e.outcome e.trace := by
  unfold attemptOnce
  rcases s.refusal?_cases address attempts attempt with ⟨hnone, halive⟩ | ⟨e, hsome, hends⟩
  · rw [hnone]
    rcases hopened : s.opened attempt with fault | a
    · exact Or.inl ⟨fault, rfl, halive, rfl⟩
    · exact Or.inr ⟨_, rfl, .connected halive hopened⟩
  · rw [hsome]
    exact Or.inr ⟨_, rfl, hends⟩

/-! ### Attempts that fail -/

/-- What is done in so many attempts that fail, from one of them on, each with the pause after it. -/
def retries (s : Surroundings α) (p : RetryPolicy) (first count : Nat) : List ConnectStep :=
  (List.range' first count).flatMap fun i => s.polls ++ [.attempt, .pause (p.delayAfter i)]

/-- Connecting ends with some attempt, and all attempts before that one fail. -/
theorem establishFrom_ends (attempt left : Nat) (h : attempt + left + 1 = p.attempts) :
    ∃ n last, n ≤ left ∧ (∀ j < n, s.Fails (attempt + j)) ∧
      s.EndsWith address p.attempts (attempt + n) (establishFrom address p s attempt left).outcome
        last ∧
      (establishFrom address p s attempt left).trace = s.retries p attempt n ++ last := by
  induction left generalizing attempt with
  | zero =>
    rw [establishFrom]
    rcases s.attemptOnce_cases address p.attempts attempt with
      ⟨fault, hfailed, halive, hopened⟩ | ⟨e, hfinal, hends⟩
    · rw [hfailed]
      exact ⟨0, _, Nat.le_refl 0, by simp, .exhausted halive hopened h, rfl⟩
    · rw [hfinal]
      exact ⟨0, _, Nat.le_refl 0, by simp, hends, rfl⟩
  | succ left ih =>
    rw [establishFrom]
    rcases s.attemptOnce_cases address p.attempts attempt with
      ⟨fault, hfailed, halive, hopened⟩ | ⟨e, hfinal, hends⟩
    · rw [hfailed]
      obtain ⟨n, last, hn, hfails, hends, htrace⟩ := ih (attempt + 1) (by omega)
      refine ⟨n + 1, last, by omega, ?_, ?_, ?_⟩
      · intro j hj
        cases j with
        | zero => exact ⟨halive, fault, hopened⟩
        | succ j =>
          have hlater := hfails j (by omega)
          rwa [Nat.add_assoc, Nat.add_comm 1 j] at hlater
      · rwa [Nat.add_assoc, Nat.add_comm 1 n] at hends
      · simp [Establishment.after, htrace, retries, List.range'_succ]
    · rw [hfinal]
      exact ⟨0, _, Nat.zero_le _, by simp, hends, rfl⟩

section

variable (s : Surroundings α) (p : RetryPolicy) (n : Nat)

theorem retries_concat : s.retries p 0 (n + 1) =
    s.retries p 0 n ++ s.polls ++ [.attempt] ++ [.pause (p.delayAfter n)] := by
  simp [retries, List.range'_concat]

theorem count_attempt_polls : s.polls.count .attempt = 0 := by
  unfold polls
  split <;> decide

theorem count_attempt_retries : (s.retries p 0 n).count .attempt = n := by
  induction n with
  | zero => rfl
  | succ n ih => simp [retries_concat, ih, count_attempt_polls]

theorem count_poll_retries {poll : Nat → Poll} (h : s.process = some poll) :
    (s.retries p 0 n).count .poll = n := by
  induction n with
  | zero => rfl
  | succ n ih => simp [retries_concat, ih, polls_of_some h]

theorem pausesOf_polls : pausesOf s.polls = [] := by
  unfold polls
  split <;> rfl

theorem pausesOf_retries : pausesOf (s.retries p 0 n) = (List.range' 0 n).map p.delayAfter := by
  induction n with
  | zero => rfl
  | succ n ih =>
    have hpolls := s.pausesOf_polls
    unfold pausesOf at ih hpolls ⊢
    rw [retries_concat, List.append_assoc, List.filterMap_append, List.filterMap_append, ih, hpolls]
    simp [List.range'_concat, ConnectStep.pause?, List.filterMap_cons]

end

/-! ### What stands before each step -/

/-- An attempt has a look before it that finds the process alive, if there is a process. A pause has fewer
attempts before it than may be made. -/
def Needs (s : Surroundings α) (attempts : Nat) : ConnectStep → List ConnectStep → Prop
  | .poll, _ => True
  | .attempt, before => ∀ poll, s.process = some poll →
      ∃ earlier, before = earlier ++ [.poll] ∧ poll (earlier.count .poll) = .alive
  | .pause _, before => before.count .attempt < attempts

variable {attempts : Nat}

/-- The looks before an attempt, and then the attempt. -/
theorem preceded_attempt {n : Nat} (h : Preceded (s.Needs attempts) (s.retries p 0 n))
    (halive : s.Alive n) :
    Preceded (s.Needs attempts) (s.retries p 0 n ++ s.polls ++ [.attempt]) := by
  rcases hprocess : s.process with _ | poll
  · have hpolls : s.polls = [] := by simp [polls, hprocess]
    rw [hpolls, List.append_nil]
    refine h.concat fun poll hsome => ?_
    rw [hprocess] at hsome
    cases hsome
  · rw [polls_of_some hprocess]
    have hpoll : Preceded (s.Needs attempts) (s.retries p 0 n ++ [.poll]) := h.concat trivial
    refine hpoll.concat fun poll' hsome => ⟨_, rfl, ?_⟩
    rw [count_poll_retries s p n hsome]
    exact halive poll' hsome

theorem preceded_retries {n : Nat} (hn : n < attempts) (hfails : ∀ j < n, s.Fails j) :
    Preceded (s.Needs attempts) (s.retries p 0 n) := by
  induction n with
  | zero => exact Preceded.nil
  | succ n ih =>
    have hbefore := ih (by omega) fun j hj => hfails j (by omega)
    rw [retries_concat]
    refine (preceded_attempt hbefore (hfails n (Nat.lt_succ_self n)).1).concat ?_
    show List.count _ _ < attempts
    simp only [List.count_append, count_attempt_retries, count_attempt_polls]
    exact hn

/-- Once earlier attempts have failed, connecting may end with the next one. -/
theorem EndsWith.preceded {n : Nat} {outcome : Except ClientError α} {last : List ConnectStep}
    (h : s.EndsWith address attempts n outcome last)
    (hbefore : Preceded (s.Needs attempts) (s.retries p 0 n)) :
    Preceded (s.Needs attempts) (s.retries p 0 n ++ last) := by
  cases h with
  | unseen | exited =>
    refine hbefore.concat ?_
    trivial
  | connected halive | exhausted halive =>
    rw [← List.append_assoc]
    exact preceded_attempt hbefore halive

theorem EndsWith.count_attempt_le {n : Nat} {outcome : Except ClientError α}
    {last : List ConnectStep} (h : s.EndsWith address attempts n outcome last) :
    last.count .attempt ≤ 1 := by
  cases h with
  | unseen | exited => decide
  | connected | exhausted => simp [count_attempt_polls]

theorem EndsWith.pausesOf_eq {n : Nat} {outcome : Except ClientError α} {last : List ConnectStep}
    (h : s.EndsWith address attempts n outcome last) : pausesOf last = [] := by
  cases h with
  | unseen | exited => rfl
  | connected | exhausted =>
    have hpolls := s.pausesOf_polls
    unfold pausesOf at hpolls ⊢
    rw [List.filterMap_append, hpolls]
    rfl

end Surroundings

/-! ### The whole -/

open Surroundings in
/-- However attempts and looks at the process go, connecting ends with some attempt. All attempts before it
were made and failed, and each of those was followed by its pause; there is nothing else in the trace. Pauses
double up to the largest word of 64 bits, and attempts are counted in 32 bits. So there are no more attempts
than the policy says, each of them stands right behind a look that has found the process alive, no pause is
shorter than an earlier one, and none stands behind the last attempt. -/
theorem establish_course {α : Type} (address : String) (p : RetryPolicy) (s : Surroundings α) :
    (∃ i last, i < p.attempts ∧ (∀ j < i, s.Fails j) ∧
      s.EndsWith address p.attempts i (establish address p s).outcome last ∧
      (establish address p s).trace = s.retries p 0 i ++ last) ∧
    p.attempts = max 1 p.maxAttempts.toNat ∧ p.attempts < 2 ^ 32 ∧
    (∀ i, p.delayAfter i = min (p.initialDelay.toNat * 2 ^ i) (2 ^ 64 - 1)) ∧
    (establish address p s).trace.count .attempt ≤ p.attempts ∧
    (∀ poll, s.process = some poll → ∀ before after,
      (establish address p s).trace = before ++ .attempt :: after →
      ∃ earlier, before = earlier ++ [.poll] ∧ poll (earlier.count .poll) = .alive) ∧
    (pausesOf (establish address p s).trace).Pairwise (· ≤ ·) ∧
    ∀ before milliseconds after,
      (establish address p s).trace = before ++ .pause milliseconds :: after →
      before.count .attempt < p.attempts := by
  have hpos := p.attempts_pos
  obtain ⟨i, last, hi, hfails, hends, htrace⟩ :=
    establishFrom_ends (s := s) (p := p) 0 (p.attempts - 1) (by omega)
  simp only [Nat.zero_add] at hfails hends
  have hlt : i < p.attempts := by omega
  replace htrace : (establish address p s).trace = s.retries p 0 i ++ last := htrace
  have hpreceded := hends.preceded (preceded_retries (p := p) hlt hfails)
  rw [← htrace] at hpreceded
  refine ⟨⟨i, last, hlt, hfails, hends, htrace⟩, rfl, p.attempts_lt, p.delayAfter_eq, ?_, ?_, ?_, ?_⟩
  · rw [htrace, List.count_append, count_attempt_retries]
    have hlast := hends.count_attempt_le
    omega
  · intro poll hprocess before after hsplit
    exact hpreceded before .attempt after hsplit poll hprocess
  · have hpauses : pausesOf (establish address p s).trace = (List.range' 0 i).map p.delayAfter := by
      rw [htrace, ← pausesOf_retries s p i, pausesOf, List.filterMap_append]
      exact (congrArg _ hends.pausesOf_eq).trans (List.append_nil _)
    rw [hpauses, List.pairwise_map]
    refine List.Pairwise.imp ?_ List.pairwise_lt_range'
    exact fun hjk => p.delayAfter_mono (Nat.le_of_lt hjk)
  · intro before milliseconds after hsplit
    exact hpreceded before (.pause milliseconds) after hsplit

/-- The process ends while connecting pauses for the second time. -/
example : (establish "localhost:8813" ⟨10, 4⟩ ({
      opened := fun _ => .error ⟨.named "ConnectionRefused", "refused"⟩
      process := some fun i => if i < 2 then .alive else .exited "exit status: 1" } :
        Surroundings Unit)).trace =
    [.poll, .attempt, .pause 10, .poll, .attempt, .pause 20, .poll] := by decide

end TrafficControl
