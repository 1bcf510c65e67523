import TrafficControl.Json.Quoted

/-!
# Tokens of JSON

The tokens are found by a machine that takes one character at a time. A number ends where a
character comes that cannot continue it, and that character is then looked at anew.
-/

namespace TrafficControl.Json

/-- The parts of a number as written, each a list of decimal digits. -/
structure NumberText where
  negative : Bool := false
  whole : List Nat := []
  fraction : List Nat := []
  exponentNegative : Bool := false
  /-- The digits of the exponent, if there is one. -/
  exponent : Option (List Nat) := none
  deriving DecidableEq, Repr

inductive Token where
  | openObject
  | closeObject
  | openArray
  | closeArray
  | colon
  | comma
  | null
  | bool (b : Bool)
  | number (n : NumberText)
  | string (parts : List StringPart)
  deriving DecidableEq, Repr

/-- How far a number has been read. -/
inductive NumberStage where
  | minus
  | zero
  | whole
  | point
  | fraction
  | mark
  | sign
  | exponent
  deriving DecidableEq, Repr

/-- Whether a number may end here. -/
def NumberStage.isComplete : NumberStage → Bool
  | .zero | .whole | .fraction | .exponent => true
  | _ => false

/-- Where the machine stands: between tokens, or inside one. Lists that still grow are reversed. -/
inductive Scan where
  | between
  /-- Inside a word, of which these characters are still to come. -/
  | word (rest : List Char) (token : Token)
  | number (stage : NumberStage) (n : NumberText)
  | string (done : List StringPart)
  /-- Behind a backslash. -/
  | escape (done : List StringPart)
  /-- Inside a code unit, with the digits still to come and the value so far. -/
  | unit (done : List StringPart) (left value : Nat)
  deriving DecidableEq, Repr

/-- The value of a decimal digit. -/
def decimalDigit? (c : Char) : Option Nat :=
  if '0' ≤ c ∧ c ≤ '9' then some (c.toNat - '0'.toNat) else none

/-- The value of a hexadecimal digit. -/
def hexDigit? (c : Char) : Option Nat :=
  if '0' ≤ c ∧ c ≤ '9' then some (c.toNat - '0'.toNat)
  else if 'a' ≤ c ∧ c ≤ 'f' then some (c.toNat - 'a'.toNat + 10)
  else if 'A' ≤ c ∧ c ≤ 'F' then some (c.toNat - 'A'.toNat + 10)
  else none

/-- A character that may stand between tokens. -/
def isBlank (c : Char) : Bool :=
  c == ' ' || c == '\n' || c == '\t' || c == '\r'

/-- Continues a number with a character, or says that the character does not belong to it. -/
def continueNumber (stage : NumberStage) (n : NumberText) (c : Char) :
    Option (NumberStage × NumberText) :=
  match decimalDigit? c with
  | some d =>
    match stage with
    | .minus => some (if d = 0 then .zero else .whole, { n with whole := [d] })
    | .zero => none
    | .whole => some (.whole, { n with whole := d :: n.whole })
    | .point | .fraction => some (.fraction, { n with fraction := d :: n.fraction })
    | .mark | .sign | .exponent =>
      some (.exponent, { n with exponent := some (d :: n.exponent.getD []) })
  | none =>
    match stage with
    | .zero | .whole =>
      if c = '.' then some (.point, n)
      else if c = 'e' ∨ c = 'E' then some (.mark, n)
      else none
    | .fraction => if c = 'e' ∨ c = 'E' then some (.mark, n) else none
    | .mark =>
      if c = '+' then some (.sign, n)
      else if c = '-' then some (.sign, { n with exponentNegative := true })
      else none
    | _ => none

/-- A finished number, its digits in order. -/
def NumberText.finish (n : NumberText) : NumberText :=
  { n with
    whole := n.whole.reverse
    fraction := n.fraction.reverse
    exponent := n.exponent.map List.reverse }

/-- What a letter behind a backslash stands for. -/
def letterEscape? (c : Char) : Option Char :=
  if c = '"' then some '"'
  else if c = '\\' then some '\\'
  else if c = '/' then some '/'
  else if c = 'b' then some '\x08'
  else if c = 'f' then some '\x0c'
  else if c = 'n' then some '\n'
  else if c = 'r' then some '\r'
  else if c = 't' then some '\t'
  else none

/-- Starts a token with a character. -/
def startToken (c : Char) (done : List Token) : Option (Scan × List Token) :=
  if isBlank c then some (.between, done)
  else if c = '\x7b' then some (.between, .openObject :: done)
  else if c = '\x7d' then some (.between, .closeObject :: done)
  else if c = '[' then some (.between, .openArray :: done)
  else if c = ']' then some (.between, .closeArray :: done)
  else if c = ':' then some (.between, .colon :: done)
  else if c = ',' then some (.between, .comma :: done)
  else if c = '"' then some (.string [], done)
  else if c = 'n' then some (.word ['u', 'l', 'l'] .null, done)
  else if c = 't' then some (.word ['r', 'u', 'e'] (.bool true), done)
  else if c = 'f' then some (.word ['a', 'l', 's', 'e'] (.bool false), done)
  else if c = '-' then some (.number .minus { negative := true }, done)
  else (fun (stage, n) => (.number stage n, done)) <$> continueNumber .minus {} c

/-- Takes one character. -/
def scanStep : Scan × List Token → Char → Option (Scan × List Token)
  | (.between, done), c => startToken c done
  | (.word [] _, _), _ => none
  | (.word [l] token, done), c => if c = l then some (.between, token :: done) else none
  | (.word (l :: rest) token, done), c => if c = l then some (.word rest token, done) else none
  | (.number stage n, done), c =>
    match continueNumber stage n c with
    | some (stage, n) => some (.number stage n, done)
    | none => if stage.isComplete then startToken c (.number n.finish :: done) else none
  | (.string parts, done), c =>
    if c = '"' then some (.between, .string parts.reverse :: done)
    else if c = '\\' then some (.escape parts, done)
    else if c.toNat < 0x20 then none
    else some (.string (.char c :: parts), done)
  | (.escape parts, done), c =>
    if c = 'u' then some (.unit parts 4 0, done)
    else (fun e => (.string (.char e :: parts), done)) <$> letterEscape? c
  | (.unit parts left value, done), c =>
    match hexDigit? c with
    | some d =>
      if left ≤ 1 then some (.string (.unit (value * 16 + d) :: parts), done)
      else some (.unit parts (left - 1) (value * 16 + d), done)
    | none => none

/-- Ends the text. -/
def scanEnd : Scan × List Token → Option (List Token)
  | (.between, done) => some done.reverse
  | (.number stage n, done) =>
    if stage.isComplete then some (.number n.finish :: done).reverse else none
  | _ => none

/-- The tokens of a text. -/
def tokens? (s : String) : Option (List Token) :=
  (s.toList.foldlM scanStep (.between, [])).bind scanEnd

end TrafficControl.Json
