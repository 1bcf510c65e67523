import TrafficControl.Number.Text

/-!
# Log records

What the client tells about its work, in order.
-/

namespace TrafficControl

inductive LogLevel where
  | info
  | warn
  deriving DecidableEq, Repr

/-- A log record, by its occasion. -/
inductive LogRecord where
  | connected (address : String) (attempt : Nat)
  | attemptFailed (attempt attempts : Nat) (address reason : String)
  | bootstrapped (time : Binary64) (vehicles : Nat)
  | unknownArrival (time : Binary64) (id : String)
  | ready (time stepLength : Binary64)
  | closed (time : Binary64)
  | departed (time : Binary64) (id : String)
  | arrived (time : Binary64) (id : String) (since : Binary64)
  | teleportStarted (time : Binary64) (id : String)
  | teleportEnded (time : Binary64) (id : String)
  | simulator (version : String) (level : Int32)
  | exhausted (time : Binary64)
  | finished (time : Binary64) (roundTrips : Nat)
  deriving DecidableEq, Repr

namespace LogRecord

def level : LogRecord → LogLevel
  | attemptFailed .. | unknownArrival .. => .warn
  | _ => .info

/-- The wording of a record. -/
def text : LogRecord → String
  | connected address attempt => "connected to " ++ address ++ " on attempt " ++ toString attempt
  | attemptFailed attempt attempts address reason =>
    "connection attempt " ++ toString attempt ++ "/" ++ toString attempts ++ " to " ++ address
      ++ " failed: " ++ reason
  | bootstrapped time vehicles =>
    "bootstrapped at t=" ++ time.text ++ " with " ++ toString vehicles ++ " active vehicles"
  | unknownArrival time id => "t=" ++ time.text ++ " arrival of unknown vehicle '" ++ id ++ "'"
  | ready time stepLength =>
    "simulation ready at t=" ++ time.text ++ " (step length " ++ stepLength.text ++ "s)"
  | closed time => "simulation closed at t=" ++ time.text
  | departed time id => "t=" ++ time.fixedText 2 ++ " departed: " ++ id
  | arrived time id since =>
    "t=" ++ time.fixedText 2 ++ " arrived: " ++ id ++ " (in simulation since t="
      ++ since.fixedText 2 ++ ")"
  | teleportStarted time id => "t=" ++ time.fixedText 2 ++ " teleport started: " ++ id
  | teleportEnded time id => "t=" ++ time.fixedText 2 ++ " teleport ended: " ++ id
  | simulator version level =>
    "Simulator: " ++ version ++ " (API level " ++ toString level.toInt ++ ")"
  | exhausted time => "No more vehicles expected at t=" ++ time.text
  | finished time roundTrips =>
    "Finished at t=" ++ time.text ++ " after " ++ toString roundTrips ++ " round trips"

end LogRecord

end TrafficControl
