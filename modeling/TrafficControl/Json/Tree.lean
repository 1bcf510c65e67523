import TrafficControl.Json.Token

/-!
# JSON trees

A tree keeps numbers and quoted texts as they are written, because what they may be depends on who
reads them: a field that nobody asks for may hold a number out of range or half a surrogate pair.
Trees are built by a machine over the tokens that keeps the open arrays and objects on a stack, so
that no nesting is too deep for it.
-/

namespace TrafficControl.Json

inductive Tree where
  | null
  | bool (b : Bool)
  | number (n : NumberText)
  | string (parts : List StringPart)
  | array (items : List Tree)
  | object (fields : List (List StringPart × Tree))
  deriving Repr, Inhabited

/-- An array or object whose next element is being read; what is done so far is reversed. -/
inductive OpenTree where
  | array (items : List Tree)
  | object (fields : List (List StringPart × Tree)) (key : List StringPart)

/-- What may come next. -/
inductive Build where
  | value (stack : List OpenTree)
  /-- Behind an opening bracket. -/
  | firstItem (stack : List OpenTree)
  /-- Behind an opening brace. -/
  | firstKey (stack : List OpenTree)
  /-- Behind a comma in an object. -/
  | nextKey (fields : List (List StringPart × Tree)) (stack : List OpenTree)
  | colon (fields : List (List StringPart × Tree)) (key : List StringPart) (stack : List OpenTree)
  | afterItem (items : List Tree) (stack : List OpenTree)
  | afterField (fields : List (List StringPart × Tree)) (stack : List OpenTree)
  | finished (t : Tree)

/-- Puts a finished tree where it belongs. -/
def Build.place (t : Tree) : List OpenTree → Build
  | [] => .finished t
  | .array items :: stack => .afterItem (t :: items) stack
  | .object fields key :: stack => .afterField ((key, t) :: fields) stack

/-- Starts a value with a token. -/
def Build.start (stack : List OpenTree) : Token → Option Build
  | .null => some (.place .null stack)
  | .bool b => some (.place (.bool b) stack)
  | .number n => some (.place (.number n) stack)
  | .string parts => some (.place (.string parts) stack)
  | .openArray => some (.firstItem stack)
  | .openObject => some (.firstKey stack)
  | _ => none

/-- Takes one token. -/
def Build.step : Build → Token → Option Build
  | .value stack, t => start stack t
  | .firstItem stack, .closeArray => some (place (.array []) stack)
  | .firstItem stack, t => start (.array [] :: stack) t
  | .firstKey stack, .closeObject => some (place (.object []) stack)
  | .firstKey stack, .string key => some (.colon [] key stack)
  | .nextKey fields stack, .string key => some (.colon fields key stack)
  | .colon fields key stack, .colon => some (.value (.object fields key :: stack))
  | .afterItem items stack, .comma => some (.value (.array items :: stack))
  | .afterItem items stack, .closeArray => some (place (.array items.reverse) stack)
  | .afterField fields stack, .comma => some (.nextKey fields stack)
  | .afterField fields stack, .closeObject => some (place (.object fields.reverse) stack)
  | _, _ => none

/-- The tree of a text, if the whole text is one value. -/
def parse? (s : String) : Option Tree := do
  let tokens ← tokens? s
  match ← tokens.foldlM Build.step (.value []) with
  | .finished t => some t
  | _ => none

end TrafficControl.Json
