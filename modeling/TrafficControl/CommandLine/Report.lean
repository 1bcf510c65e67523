import TrafficControl.Protocol.ValueJson
import TrafficControl.Traffic.Lifecycle

/-!
# Reports

Every step is reported by a line: as JSON, or in columns, where a step in which nothing happened has
no line.
-/

namespace TrafficControl

/-- A text with blanks in front up to a width. -/
def padLeft (width : Nat) (s : String) : String :=
  String.ofList (List.replicate (width - s.length) ' ') ++ s

/-- A text with blanks behind it up to a width. -/
def padRight (width : Nat) (s : String) : String :=
  s ++ String.ofList (List.replicate (width - s.length) ' ')

namespace StepEvents

/-- Events as JSON. -/
def json (e : StepEvents) : String :=
  let ids (xs : List String) : String := jsonArray (xs.map Json.quote)
  jsonObject [("time", e.time.jsonText), ("departed", ids e.departed), ("arrived", ids e.arrived),
    ("teleport_started", ids e.teleportStarted), ("teleport_ended", ids e.teleportEnded)]

/-- Events in columns: the time, and how many vehicles departed, arrived, and began and ended a
teleport. -/
def columns (e : StepEvents) : String :=
  let count (xs : List String) : String := toString xs.length
  "t=" ++ padLeft 8 (e.time.fixedText 2) ++ "  +" ++ padRight 3 (count e.departed) ++ " -"
    ++ padRight 3 (count e.arrived) ++ " teleports " ++ count e.teleportStarted ++ "/"
    ++ count e.teleportEnded

/-- The lines that report a step. -/
def report (e : StepEvents) (json : Bool) : List String :=
  if json then [e.json] else if e.isQuiet then [] else [e.columns]

end StepEvents

end TrafficControl
