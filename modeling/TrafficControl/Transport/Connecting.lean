import TrafficControl.Client.Error
import TrafficControl.Client.Log
import TrafficControl.Settings.RetryPolicy
import TrafficControl.Text.Integer

/-!
# Connecting

A simulator may still be starting up, so a connection is tried several times. If the simulator runs
as a process of its own, the process is looked at before every attempt, and no attempt is made once
it has ended. `establish` gives the outcome together with the trace of what was done.
-/

namespace TrafficControl

/-- What a look at the simulator's process finds. -/
inductive Poll where
  | alive
  | exited (status : String)
  | failed (fault : Fault)
  deriving DecidableEq, Repr

/-- The outside world of connecting: how each attempt goes, and what is found when the process is
looked at before it, if there is a process. Attempts are counted from zero. -/
structure Surroundings (α : Type) where
  opened : Nat → Except Fault α
  process : Option (Nat → Poll)

/-- What connecting does. -/
inductive ConnectStep where
  | poll
  | attempt
  | pause (milliseconds : Nat)
  deriving DecidableEq, Repr

/-- The outcome of connecting, what was done on the way, and what was logged. -/
structure Establishment (α : Type) where
  outcome : Except ClientError α
  trace : List ConnectStep := []
  log : List LogRecord := []

namespace Establishment

/-- Puts earlier steps and records in front. -/
def after {α : Type} (e : Establishment α) (trace : List ConnectStep) (log : List LogRecord) :
    Establishment α :=
  { e with trace := trace ++ e.trace, log := log ++ e.log }

end Establishment

/-- Looks at the process before an attempt; gives the reason not to make it. -/
def Surroundings.refusal? {α : Type} (s : Surroundings α) (attempt : Nat) : Option ClientError :=
  match s.process with
  | none => none
  | some poll =>
    match poll attempt with
    | .alive => none
    | .exited status => some (.processExited status)
    | .failed fault => some (.transport fault)

/-- The steps of one attempt that is made. -/
def Surroundings.polls {α : Type} (s : Surroundings α) : List ConnectStep :=
  if s.process.isSome then [.poll] else []

/-- One attempt: connecting ends with it, or it fails and another may follow. -/
inductive Attempt (α : Type) where
  | final (e : Establishment α)
  | failed (fault : Fault)

/-- Looks at the process and then tries to connect. -/
def attemptOnce {α : Type} (address : String) (s : Surroundings α) (attempt : Nat) : Attempt α :=
  match s.refusal? attempt with
  | some e => .final { outcome := .error e, trace := s.polls }
  | none =>
    match s.opened attempt with
    | .ok a =>
      .final {
        outcome := .ok a
        trace := s.polls ++ [.attempt]
        log := [.connected address (attempt + 1)] }
    | .error fault => .failed fault

/-- The record of a failed attempt. -/
def failureRecord (address : String) (policy : RetryPolicy) (attempt : Nat) (fault : Fault) :
    LogRecord :=
  .attemptFailed (attempt + 1) policy.attempts address fault.text

/-- Makes an attempt, and after a failure and a pause at most `left` more. -/
def establishFrom {α : Type} (address : String) (policy : RetryPolicy) (s : Surroundings α)
    (attempt : Nat) : Nat → Establishment α
  | 0 =>
    match attemptOnce address s attempt with
    | .final e => e
    | .failed fault =>
      { outcome := .error (.connectFailed address policy.attempts fault)
        trace := s.polls ++ [.attempt]
        log := [failureRecord address policy attempt fault] }
  | left + 1 =>
    match attemptOnce address s attempt with
    | .final e => e
    | .failed fault =>
      (establishFrom address policy s (attempt + 1) left).after
        (s.polls ++ [.attempt, .pause (policy.delayAfter attempt)])
        [failureRecord address policy attempt fault]

/-- Connects to an address under a retry policy. -/
def establish {α : Type} (address : String) (policy : RetryPolicy) (s : Surroundings α) :
    Establishment α :=
  establishFrom address policy s 0 (policy.attempts - 1)

/-- What follows the last colon of an address. -/
def portText? (address : String) : Option String :=
  let cs := address.toList.reverse
  if cs.contains ':' then some (String.ofList (cs.takeWhile (· ≠ ':')).reverse) else none

/-- Why an address names no socket, if it does not. -/
def addressFault? (address : String) : Option Fault :=
  match portText? address with
  | none => some ⟨.named "InvalidInput", "invalid socket address"⟩
  | some port =>
    match unsigned? UInt16.size port with
    | some _ => none
    | none => some ⟨.named "InvalidInput", "invalid port value"⟩

end TrafficControl
