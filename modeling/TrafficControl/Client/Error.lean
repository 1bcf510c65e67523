import TrafficControl.Protocol.FrameError
import TrafficControl.Protocol.Value
import TrafficControl.Transport.Fault

/-!
# What a client reports

Failures of transport and of framing end a whole batch, mismatches name what was expected and what
came, a refusal carries the simulator's own words, and misuse is reported before anything is sent.
`ClientError.isFatal` tells the failures after which the bytes of the connection can no longer be
trusted.
-/

namespace TrafficControl

/-- What a value can be read as. -/
inductive Target where
  | ubyte
  | byte
  | int
  | number
  | text
  | textList
  | items
  | position
  | lonLat
  | roadMap
  | boundingBox
  | color
  | polygon
  | any
  deriving DecidableEq, Repr, Inhabited

namespace Target

/-- The name of a target in messages. -/
def name : Target → String
  | ubyte => "u8"
  | byte => "i8"
  | int => "i32"
  | number => "f64"
  | text => "String"
  | textList => "Vec<String>"
  | items => "Vec<Value>"
  | position => "Position2D"
  | lonLat => "LonLatPosition"
  | roadMap => "RoadMapPosition"
  | boundingBox => "BoundingBox"
  | color => "Color"
  | polygon => "Polygon"
  | any => "Value"

/-- Every target. -/
def all : List Target :=
  [ubyte, byte, int, number, text, textList, items, position, lonLat, roadMap, boundingBox, color,
    polygon, any]

end Target

/-- A broken promise of the client to itself, of a repository's factory, or of the simulator. -/
inductive Breach where
  /-- A query asked for more answers than there are. -/
  | noAnswerLeft
  /-- A query took another number of answers than it had sent commands. -/
  | answersTaken (taken expected : Nat)
  /-- A value vanished between its arrival and its use. -/
  | discarded (code : UInt8) (object : String)
  /-- A listing is missing after the batch that fetched it. -/
  | missingListing (code : UInt8)
  /-- The simulator lists a vehicle that was never seen to depart. -/
  | neverDeparted (id : String)
  /-- A factory would not build an object. -/
  | factoryRefused (id : String)
  deriving DecidableEq, Repr

/-- The wording of a broken promise. -/
def Breach.message : Breach → String
  | .noAnswerLeft => "query consumed more responses than it requested"
  | .answersTaken taken expected =>
    "query consumed " ++ toString taken ++ " responses for " ++ toString expected ++ " requests"
  | .discarded code object =>
    "value of " ++ hexName code ++ " for '" ++ object ++ "' was discarded before it could be read"
  | .missingListing code => "variable " ++ hexName code ++ " missing after its batch"
  | .neverDeparted id => "vehicle '" ++ id ++ "' is listed by the simulator but never departed"
  | .factoryRefused id => "factory refused '" ++ id ++ "'"

/-- A failure of the client. -/
inductive ClientError where
  | transport (fault : Fault)
  | framing (error : FrameError)
  /-- The simulator refused a command. -/
  | refused (command result : UInt8) (description : String)
  | unexpectedCommand (expected actual : UInt8)
  | unexpectedVariable (expected actual : UInt8)
  | unexpectedObject (expected actual : String)
  | responseCount (expected actual : Nat)
  | missingResponse (command : UInt8)
  | valueConversion (expected : Target) (actual : ValueType)
  | missingParameter (object : String) (code : UInt8)
  | missingValue (object : String) (code : UInt8)
  /-- The vehicle has left the simulation. -/
  | retired (id : String)
  | broken (breach : Breach)
  | connectFailed (address : String) (attempts : Nat) (last : Fault)
  | processExited (status : String)
  deriving DecidableEq, Repr

namespace ClientError

/-- The wording of a failure. -/
def message : ClientError → String
  | transport fault => "transport failure: " ++ fault.text
  | framing error => "framing failure: " ++ error.message
  | refused command result description =>
    "simulator rejected command " ++ hexName command ++ " (result " ++ hexName result ++ "): "
      ++ description
  | unexpectedCommand expected actual =>
    "unexpected command id: expected " ++ hexName expected ++ ", got " ++ hexName actual
  | unexpectedVariable expected actual =>
    "unexpected variable id: expected " ++ hexName expected ++ ", got " ++ hexName actual
  | unexpectedObject expected actual =>
    "unexpected object id: expected '" ++ expected ++ "', got '" ++ actual ++ "'"
  | responseCount expected actual =>
    "expected " ++ toString expected ++ " responses, received " ++ toString actual
  | missingResponse command => "command " ++ hexName command ++ " returned no value"
  | valueConversion expected actual => "cannot read a " ++ actual.name ++ " value as " ++ expected.name
  | missingParameter object code =>
    "reading variable " ++ hexName code ++ " of '" ++ object ++ "' requires a parameter"
  | missingValue object code =>
    "changing variable " ++ hexName code ++ " of '" ++ object ++ "' requires a value"
  | retired id => "object '" ++ id ++ "' is no longer in the simulation"
  | broken breach => "invariant violated: " ++ breach.message
  | connectFailed address attempts last =>
    "could not connect to " ++ address ++ " after " ++ toString attempts ++ " attempts: " ++ last.text
  | processExited status => "simulator process exited before accepting a connection: " ++ status

/-- Whether the bytes of the connection can no longer be trusted. -/
def isFatal : ClientError → Bool
  | transport _ | framing _ | responseCount .. => true
  | _ => false

end ClientError

end TrafficControl
