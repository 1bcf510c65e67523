import TrafficControl.CommandLine.Session

/-!
# The command line

Plays a session against a recording of what the simulator says, which is read from standard input.
The lines of the session go to standard output, its log and its failures to standard error.
-/

namespace TrafficControl.CommandLine

/-- What a call for help shows. -/
def helpText : String :=
  "Usage: [OPTIONS]\n\n" ++
  "  -H, --host <HOST>                  Simulator host\n" ++
  "  -p, --port <PORT>                  Simulator port\n" ++
  "  -s, --steps <STEPS>                Number of steps to run [default: 100]\n" ++
  "  -l, --step-length <SECONDS>        Seconds per step\n" ++
  "  -c, --config <FILE>                Settings file; options take precedence\n" ++
  "      --retries <COUNT>              Connection attempts before giving up\n" ++
  "      --retry-delay-ms <DELAY>       Delay before the first retry\n" ++
  "      --single-threaded              Do without a lock\n" ++
  "      --json                         Print each step as one line of JSON\n" ++
  "  -h, --help                         Print help\n" ++
  "  -V, --version                      Print version"

/-- What a call for the version shows. -/
def versionText : String := "0.1.0"

/-- Reads a stream to its end. -/
partial def readToEnd (input : IO.FS.Stream) (done : ByteArray) : IO ByteArray := do
  let piece ← input.read 65536
  if piece.isEmpty then pure done else readToEnd input (done ++ piece)

/-- The content of the settings file that the arguments name, if it can be read. -/
def settingsFile (a : Arguments) : IO (Except SettingsError String) := do
  match a.config with
  | none => pure (.ok "")
  | some path =>
    try
      pure (.ok (← IO.FS.readFile path))
    catch e =>
      pure (.error (.unreadable ⟨.named "NotFound", toString e⟩))

/-- Runs a session and tells how it went. -/
def play (a : Arguments) (s : Settings) : IO UInt32 := do
  let inbound ← readToEnd (← IO.getStdin) ByteArray.empty
  let client : Client Stream := { link := { inbound := inbound.toList } }
  let (console, failure) :=
    match Session.run s.stepLength a.stepCount a.json { client } with
    | .ok () console => (console, none)
    | .error e console => (console, some e)
  for line in console.lines do
    IO.println line
  for r in console.client.memory.log do
    IO.eprintln r.text
  match failure with
  | none => pure 0
  | some e =>
    IO.eprintln ("Error: " ++ e.message)
    pure 1

end TrafficControl.CommandLine

open TrafficControl CommandLine

def main (args : List String) : IO UInt32 := do
  match Arguments.ofList args with
  | .error .help =>
    IO.println helpText
    pure 0
  | .error .version =>
    IO.println versionText
    pure 0
  | .error .usage =>
    IO.eprintln helpText
    pure 2
  | .ok a =>
    let file ← settingsFile a
    match a.settings fun _ => file with
    | .ok s => play a s
    | .error (.unreadable fault) =>
      IO.eprintln ("Error: " ++ fault.text)
      pure 1
    | .error .invalid =>
      IO.eprintln "Error: invalid settings"
      pure 1
