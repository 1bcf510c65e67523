import TrafficControl.CommandLine.Arguments
import TrafficControl.CommandLine.Report
import TrafficControl.Traffic.Simulation

/-!
# Sessions of the command line

A session starts a simulation, asks for its version, and runs steps until their number is reached or
no more vehicles are expected. Each step is reported once it is done, so that its line stays printed
whatever fails later. At the end the simulator is asked to shut down.
-/

namespace TrafficControl

/-- A client and the lines printed so far. -/
structure Console (σ : Type) where
  client : Client σ
  lines : Array String := #[]

/-- What the command line does. -/
abbrev Session (σ : Type) := EStateM ClientError (Console σ)

namespace Session

variable {σ α : Type}

/-- Has the client do something. -/
def act (action : Action σ α) : Session σ α := fun c =>
  match action c.client with
  | .ok a client => .ok a { c with client }
  | .error e client => .error e { c with client }

/-- Prints lines. -/
def print (lines : List String) : Session σ Unit :=
  modify fun c => { c with lines := c.lines ++ lines }

variable [Link σ]

/-- Runs at most so many steps; ends early once no more vehicles are expected. -/
def runSteps (json : Bool) : Nat → Simulation → Session σ Simulation
  | 0, s => pure s
  | left + 1, s => do
    let (events, s) ← act s.step
    print (events.report json)
    if (← act s.minExpected) = 0 then
      act (Action.log (.exhausted events.time))
      pure s
    else runSteps json left s

/-- Runs a session. Without JSON, vehicles are logged as well. -/
def run (stepLength : Option Binary64) (steps : Nat) (json : Bool) : Session σ Unit := do
  let s ← act (Simulation.start stepLength)
  let (level, text) ← act s.version
  act (Action.log (.simulator text level))
  let s := if json then s else s.addObserver .logging
  let s ← runSteps json steps s
  act (Action.log (.finished s.currentTime (← get).client.roundTrips))
  act s.close

end Session

end TrafficControl
