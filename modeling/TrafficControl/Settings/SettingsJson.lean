import TrafficControl.Protocol.ValueJson
import TrafficControl.Settings.Settings

/-!
# Settings as JSON

Fields that are missing take their defaults. Settings and retry policies are read from objects and
from arrays in field order.
-/

namespace TrafficControl

open Json (Tree)

namespace LockMode

def name : LockMode → String
  | shared => "shared"
  | singleThreaded => "single_threaded"

def ofName? (s : String) : Option LockMode :=
  [shared, singleThreaded].find? fun m => m.name == s

/-- A mode is given by its name, or by an object that has the name for its only field, with
nothing in it. -/
def ofTree? : Tree → Option LockMode
  | .string parts => do ofName? (← Json.text? parts)
  | .object [(key, .null)] => do ofName? (← Json.text? key)
  | _ => none

end LockMode

/-- Reads a field if it is there, and takes the default if it is missing. -/
def orDefault {α : Type} (default : α) (read : Tree → Option α) : Option Tree → Option α
  | none => some default
  | some t => read t

namespace RetryPolicy

def json (p : RetryPolicy) : String :=
  jsonObject [("initial_delay_ms", toString p.initialDelay.toNat),
    ("max_attempts", toString p.maxAttempts.toNat)]

def ofTree? (t : Tree) : Option RetryPolicy := do
  let [delay, attempts] ← t.record? ["initial_delay_ms", "max_attempts"] | none
  let p : RetryPolicy := {}
  let delay ← orDefault p.initialDelay
    (fun t => (UInt64.ofNat ∘ Int.toNat) <$> t.integer? 0 (UInt64.size - 1)) delay
  let attempts ← orDefault p.maxAttempts
    (fun t => (UInt32.ofNat ∘ Int.toNat) <$> t.integer? 0 (UInt32.size - 1)) attempts
  pure ⟨delay, attempts⟩

end RetryPolicy

namespace Settings

def json (s : Settings) : String :=
  jsonObject [("host", Json.quote s.host), ("port", toString s.port.toNat),
    ("step_length", (s.stepLength.map Binary64.jsonText).getD "null"),
    ("lock_mode", Json.quote s.lockMode.name), ("retry", s.retry.json)]

/-- A step length, or nothing. -/
def stepLength? : Tree → Option (Option Binary64)
  | .null => some none
  | t => some <$> t.binary64?

def ofTree? (t : Tree) : Option Settings := do
  let [host, port, stepLength, lockMode, retry] ←
    t.record? ["host", "port", "step_length", "lock_mode", "retry"] | none
  let s : Settings := {}
  let host ← orDefault s.host Tree.text? host
  let port ← orDefault s.port
    (fun t => (UInt16.ofNat ∘ Int.toNat) <$> t.integer? 0 (UInt16.size - 1)) port
  let stepLength ← orDefault s.stepLength stepLength? stepLength
  let lockMode ← orDefault s.lockMode LockMode.ofTree? lockMode
  let retry ← orDefault s.retry RetryPolicy.ofTree? retry
  pure ⟨host, port, stepLength, lockMode, retry⟩

/-- The settings that a text gives. -/
def ofJson (text : String) : Except SettingsError Settings :=
  match Json.parse? text >>= ofTree? with
  | some s => .ok s
  | none => .error .invalid

end Settings

end TrafficControl
