/-!
# Transport faults

What a byte stream can report instead of moving bytes. Only an interruption is treated apart from
the rest: a call that was interrupted is made again.
-/

namespace TrafficControl

/-- The kind of a transport fault. -/
inductive FaultKind where
  | interrupted
  | unexpectedEnd
  | writeZero
  | named (name : String)
  deriving DecidableEq, Repr, Inhabited

namespace FaultKind

/-- The name under which a kind is reported. -/
def name : FaultKind → String
  | interrupted => "Interrupted"
  | unexpectedEnd => "UnexpectedEof"
  | writeZero => "WriteZero"
  | named name => name

/-- The kind reported under a name. -/
def ofName (s : String) : FaultKind :=
  if s = interrupted.name then interrupted
  else if s = unexpectedEnd.name then unexpectedEnd
  else if s = writeZero.name then writeZero
  else named s

end FaultKind

/-- A transport fault and its wording. -/
structure Fault where
  kind : FaultKind
  text : String
  deriving DecidableEq, Repr, Inhabited

namespace Fault

/-- The stream ended before all bytes asked for had arrived. -/
def endOfStream : Fault := ⟨.unexpectedEnd, "failed to fill whole buffer"⟩

/-- The stream took none of the bytes offered. -/
def nothingWritten : Fault := ⟨.writeZero, "failed to write whole buffer"⟩

end Fault

end TrafficControl
