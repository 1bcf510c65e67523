import TrafficControl.Entity.Entity

/-!
# Traffic lights

A traffic light runs through the phases of a program. A new phase puts out of date what is known of
phase, state and next switch; a new program, what is known of program, phase and state.
-/

namespace TrafficControl

/-- A traffic light. -/
abbrev TrafficLight := Entity .trafficLight

namespace TrafficLight

variable {σ : Type} [Link σ]

/-- The signal of every controlled link, a character each. -/
def state (t : TrafficLight) : Action σ String := t.read _ TrafficLightVariable.state

def phase (t : TrafficLight) : Action σ Int32 := t.read _ TrafficLightVariable.phase

def program (t : TrafficLight) : Action σ String := t.read _ TrafficLightVariable.program

/-- When the phase switches next, in simulation time. -/
def nextSwitch (t : TrafficLight) : Action σ Binary64 := t.read _ TrafficLightVariable.nextSwitch

def controlledLanes (t : TrafficLight) : Action σ (List String) :=
  t.read _ TrafficLightVariable.controlledLanes

def setPhase (t : TrafficLight) (phase : Int32) : Action σ Unit :=
  (t.change .phase).runWith (.int phase)

def setProgram (t : TrafficLight) (program : String) : Action σ Unit :=
  (t.change .program).runWith (.text program)

end TrafficLight

end TrafficControl
