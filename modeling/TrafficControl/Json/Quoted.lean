import TrafficControl.Text.Hex

/-!
# Quoted text

A text in JSON stands between quotes, with the quote, the backslash and the control characters
escaped. What a reader finds between quotes is a list of `StringPart`s: characters, and code units
given by number, of which only two of the right kind in a row stand for one character.
-/

namespace TrafficControl.Json

/-- A piece of a quoted text: a character as it stands or as a letter escape, or a code unit of
sixteen bits given in hexadecimal. -/
inductive StringPart where
  | char (c : Char)
  | unit (code : Nat)
  deriving DecidableEq, Repr

/-- The characters that the pieces of a quoted text stand for. A leading surrogate must be followed
by a trailing one, and a trailing one must follow a leading one. -/
def resolve : List StringPart → Option (List Char)
  | [] => some []
  | .char c :: rest => (c :: ·) <$> resolve rest
  | .unit hi :: .unit lo :: rest =>
    if 0xd800 ≤ hi ∧ hi < 0xdc00 then
      if 0xdc00 ≤ lo ∧ lo < 0xe000 then
        (Char.ofNat (0x10000 + (hi - 0xd800) * 0x400 + (lo - 0xdc00)) :: ·) <$> resolve rest
      else none
    else if 0xdc00 ≤ hi ∧ hi < 0xe000 then none
    else (Char.ofNat hi :: ·) <$> resolve (.unit lo :: rest)
  | .unit code :: rest =>
    if 0xd800 ≤ code ∧ code < 0xe000 then none else (Char.ofNat code :: ·) <$> resolve rest

/-- The text that the pieces of a quoted text stand for. -/
def text? (parts : List StringPart) : Option String :=
  String.ofList <$> resolve parts

/-- A character as it stands between quotes. -/
def escape (c : Char) : List Char :=
  if c = '"' then ['\\', '"']
  else if c = '\\' then ['\\', '\\']
  else if c = '\x08' then ['\\', 'b']
  else if c = '\t' then ['\\', 't']
  else if c = '\n' then ['\\', 'n']
  else if c = '\x0c' then ['\\', 'f']
  else if c = '\r' then ['\\', 'r']
  else if c.toNat < 0x20 then
    ['\\', 'u', '0', '0', hexDigit (c.toNat / 16), hexDigit (c.toNat % 16)]
  else [c]

/-- A text in quotes. -/
def quote (s : String) : String :=
  String.ofList ('"' :: s.toList.flatMap escape ++ ['"'])

end TrafficControl.Json
