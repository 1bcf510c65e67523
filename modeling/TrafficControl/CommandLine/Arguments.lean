import TrafficControl.Number.Reading
import TrafficControl.Settings.SettingsJson
import TrafficControl.Text.Integer

/-!
# Arguments

Options have a long name and some a short one as well. A value follows as an argument of its own,
which must not look like an option, or it is attached: after the equals sign of a long name, or
right behind a short one, with an equals sign or without. Names are not abbreviated, an option is
given at most once, and there is nothing but options. The first complaint or call for help ends the
reading.
-/

namespace TrafficControl

/-! ## Words -/

/-- What an argument looks like. -/
inductive ArgumentWord where
  /-- Two dashes, behind which no option is read. -/
  | endOfOptions
  | long (name : String) (attached : Option String)
  | short (letter : Char) (attached : Option String)
  | plain
  deriving DecidableEq, Repr

/-- A long name and what is attached to it. -/
def ArgumentWord.ofLong (cs : List Char) : ArgumentWord :=
  let name := String.ofList (cs.takeWhile (· ≠ '='))
  match cs.dropWhile (· ≠ '=') with
  | [] => long name none
  | _ :: attached => long name (some (String.ofList attached))

/-- A short name and what is attached to it. -/
def ArgumentWord.ofShort (letter : Char) : List Char → ArgumentWord
  | [] => short letter none
  | '=' :: attached => short letter (some (String.ofList attached))
  | attached => short letter (some (String.ofList attached))

/-- What an argument looks like. A single dash is plain. -/
def ArgumentWord.ofText (s : String) : ArgumentWord :=
  match s.toList with
  | ['-', '-'] => endOfOptions
  | '-' :: '-' :: cs => ofLong cs
  | '-' :: letter :: cs => ofShort letter cs
  | _ => plain

/-! ## Options -/

/-- The options that take a value. -/
inductive ValueOption where
  | host | port | steps | stepLength | config | retries | retryDelay
  deriving DecidableEq, Repr

namespace ValueOption

def all : List ValueOption := [host, port, steps, stepLength, config, retries, retryDelay]

def longName : ValueOption → String
  | host => "host"
  | port => "port"
  | steps => "steps"
  | stepLength => "step-length"
  | config => "config"
  | retries => "retries"
  | retryDelay => "retry-delay-ms"

def shortName? : ValueOption → Option Char
  | host => some 'H'
  | port => some 'p'
  | steps => some 's'
  | stepLength => some 'l'
  | config => some 'c'
  | retries | retryDelay => none

end ValueOption

/-- The options that take no value. -/
inductive FlagOption where
  | singleThreaded | json | help | version
  deriving DecidableEq, Repr

namespace FlagOption

def all : List FlagOption := [singleThreaded, json, help, version]

def longName : FlagOption → String
  | singleThreaded => "single-threaded"
  | json => "json"
  | help => "help"
  | version => "version"

def shortName? : FlagOption → Option Char
  | help => some 'h'
  | version => some 'V'
  | singleThreaded | json => none

end FlagOption

/-! ## Arguments -/

/-- What was given on the command line. -/
structure Arguments where
  host : Option String := none
  port : Option UInt16 := none
  steps : Option UInt32 := none
  stepLength : Option Binary64 := none
  config : Option String := none
  retries : Option UInt32 := none
  retryDelay : Option UInt64 := none
  singleThreaded : Bool := false
  json : Bool := false
  deriving DecidableEq, Repr, Inhabited

/-- Why there is nothing to run. -/
inductive ArgumentStop where
  /-- The arguments make no sense. -/
  | usage
  | help
  | version
  deriving DecidableEq, Repr

namespace Arguments

/-- How many steps are run unless it is said. -/
def defaultSteps : Nat := 100

/-- How many steps are run. -/
def stepCount (a : Arguments) : Nat := a.steps.elim defaultSteps UInt32.toNat

/-- A value that must be readable, for an option that was not given yet. -/
def once {α : Type} (given value : Option α) : Except ArgumentStop (Option α) :=
  match given, value with
  | none, some v => .ok (some v)
  | _, _ => .error .usage

/-- Sets the value of an option. -/
def setValue (a : Arguments) (s : String) : ValueOption → Except ArgumentStop Arguments
  | .host => do pure { a with host := ← once a.host (some s) }
  | .port => do
    let value := (unsignedOfSigned? UInt16.size s).map UInt16.ofNat
    pure { a with port := ← once a.port value }
  | .steps => do
    let value := (unsignedOfSigned? UInt32.size s).map UInt32.ofNat
    pure { a with steps := ← once a.steps value }
  | .stepLength => do pure { a with stepLength := ← once a.stepLength (Binary64.ofText? s) }
  | .config => do pure { a with config := ← once a.config (some s) }
  | .retries => do
    let value := (unsignedOfSigned? UInt32.size s).map UInt32.ofNat
    pure { a with retries := ← once a.retries value }
  | .retryDelay => do
    let value := (unsigned? UInt64.size s).map UInt64.ofNat
    pure { a with retryDelay := ← once a.retryDelay value }

/-- Sets a flag. -/
def setFlag (a : Arguments) : FlagOption → Except ArgumentStop Arguments
  | .singleThreaded => if a.singleThreaded then .error .usage else .ok { a with singleThreaded := true }
  | .json => if a.json then .error .usage else .ok { a with json := true }
  | .help => .error .help
  | .version => .error .version

/-- What a word means. -/
inductive Meaning where
  | value (o : ValueOption) (attached : Option String)
  | flag (o : FlagOption)
  | nonsense
  deriving DecidableEq, Repr

/-- What an option word means. Only a short flag may have something attached: it is looked at
first, and by then the reading has ended. -/
def meaning : ArgumentWord → Meaning
  | .long name attached =>
    match ValueOption.all.find? (·.longName == name), FlagOption.all.find? (·.longName == name) with
    | some o, _ => .value o attached
    | none, some o => if attached.isSome then .nonsense else .flag o
    | none, none => .nonsense
  | .short letter attached =>
    match ValueOption.all.find? (·.shortName? == some letter),
      FlagOption.all.find? (·.shortName? == some letter) with
    | some o, _ => .value o attached
    | none, some o => .flag o
    | none, none => .nonsense
  | .endOfOptions | .plain => .nonsense

/-- Reads arguments on top of those already read. -/
def readOnto (a : Arguments) : List String → Except ArgumentStop Arguments
  | [] => .ok a
  | arg :: rest =>
    let word := ArgumentWord.ofText arg
    if word = .endOfOptions then if rest = [] then .ok a else .error .usage
    else
      match meaning word with
      | .nonsense => .error .usage
      | .flag o => do readOnto (← a.setFlag o) rest
      | .value o (some s) => do readOnto (← a.setValue s o) rest
      | .value o none =>
        match rest with
        | [] => .error .usage
        | s :: rest =>
          if ArgumentWord.ofText s = .plain then do readOnto (← a.setValue s o) rest
          else .error .usage

/-- Reads arguments. -/
def ofList (args : List String) : Except ArgumentStop Arguments := readOnto {} args

/-- The settings that arguments ask for: those of the settings file, if one is named, with what is
given on the command line on top. -/
def settings (a : Arguments) (load : String → Except SettingsError String) :
    Except SettingsError Settings := do
  let s ← match a.config with
    | some path => load path >>= Settings.ofJson
    | none => pure {}
  pure {
    host := a.host.getD s.host
    port := a.port.getD s.port
    stepLength := a.stepLength.or s.stepLength
    lockMode := if a.singleThreaded then .singleThreaded else s.lockMode
    retry := ⟨a.retryDelay.getD s.retry.initialDelay, a.retries.getD s.retry.maxAttempts⟩ }

end Arguments

end TrafficControl
