import TrafficControl.Protocol.Message

/-!
# How messages are spelled

A message can be spelled in several ways: the length of a command is given in a short or in a long
form, and further bytes may stand in a status behind its description. A spelling is a message together
with these choices, the tree that a reader follows through the bytes. It carries the proof that its
lengths and counts fit their fields and that what follows a status is what the status announces, so
every spelling has bytes and says a message.

* `Command.Spelling`, `Status.Spelling`, `Reply.Spelling`, `Container.Spelling`: the pieces, each with
  its `bytes` and with what it says.
* `Frame.Spells`: a byte string is a frame around pieces one after another.
-/

namespace TrafficControl

/-! ### Commands -/

/-- The form in which a command gives its length. -/
inductive LengthForm where
  /-- A single byte. -/
  | short
  /-- A zero byte and then four bytes. -/
  | long
  deriving DecidableEq, Repr

namespace LengthForm

/-- The bytes that the length itself takes. -/
def width : LengthForm → Nat
  | short => 1
  | long => 5

/-- The lengths of this form are below this. -/
def bound : LengthForm → Nat
  | short => UInt8.size
  | long => UInt32.size

/-- The bytes of a length. -/
def field : LengthForm → Nat → Bytes
  | short, n => [UInt8.ofNat n]
  | long, n => 0 :: Word.bytes 4 n

@[simp] theorem length_field (form : LengthForm) (n : Nat) : (form.field n).length = form.width := by
  cases form <;> simp [field, width]

theorem bound_le (form : LengthForm) : form.bound ≤ UInt32.size := by
  cases form <;> simp [bound, UInt8.size, UInt32.size]

theorem width_injective {form form' : LengthForm} (h : form.width = form'.width) : form = form' := by
  cases form <;> cases form' <;> simp_all [width]

end LengthForm

namespace Command

/-- A command and the form of its length, which counts itself, the byte that says what the command
is, and the payload. -/
@[ext] structure Spelling where
  form : LengthForm
  command : Command
  fits : form.width + 1 + command.payload.length < form.bound

namespace Spelling

def size (s : Spelling) : Nat := s.form.width + 1 + s.command.payload.length

def bytes (s : Spelling) : Bytes := s.form.field s.size ++ s.command.id :: s.command.payload

@[simp] theorem length_bytes (s : Spelling) : s.bytes.length = s.size := by
  simp only [bytes, size, List.length_append, LengthForm.length_field, List.length_cons]
  omega

theorem bytes_ne_nil (s : Spelling) : s.bytes ≠ [] := by
  simp [bytes]

end Spelling

end Command

/-! ### Statuses -/

namespace Status

/-- The command in which a status is sent, with further bytes behind the description. -/
def block (s : Status) (further : Bytes) : Command where
  id := s.command
  payload := s.result ::
    (Word.bytes 4 (Utf8.bytes s.description).length ++ Utf8.bytes s.description ++ further)

/-- A status, the form in which its length is given, and the bytes behind its description. -/
@[ext] structure Spelling where
  status : Status
  form : LengthForm
  further : Bytes
  countable : (Utf8.bytes status.description).length < Emission.countBound
  fits : form.width + 1 + (status.block further).payload.length < form.bound

namespace Spelling

/-- The command that the status is. -/
def command (s : Spelling) : Command.Spelling := ⟨s.form, s.status.block s.further, s.fits⟩

def bytes (s : Spelling) : Bytes := s.command.bytes

/-- The spelling of a status whose command is spelled in a given way. -/
def ofCommand (c : Command.Spelling) (status : Status) (further : Bytes)
    (countable : (Utf8.bytes status.description).length < Emission.countBound)
    (h : c.command = status.block further) : Spelling where
  status
  form := c.form
  further
  countable
  fits := h ▸ c.fits

@[simp] theorem bytes_ofCommand {c : Command.Spelling} {status : Status} {further : Bytes}
    {countable : (Utf8.bytes status.description).length < Emission.countBound}
    {h : c.command = status.block further} :
    (ofCommand c status further countable h).bytes = c.bytes := by
  have hcommand : (ofCommand c status further countable h).command = c :=
    Command.Spelling.ext rfl h.symm
  rw [bytes, hcommand]

end Spelling

end Status

/-! ### Containers -/

/-- What follows a status. -/
inductive Reply.Spelling where
  | bare
  | single (answer : Command.Spelling)
  | several (answers : List Command.Spelling) (countable : answers.length < Emission.countBound)

namespace Reply.Spelling

/-- The commands that follow the status. -/
def commands : Reply.Spelling → List Command.Spelling
  | bare => []
  | single answer => [answer]
  | several answers _ => answers

/-- What the spelling says. -/
def reply : Reply.Spelling → Reply
  | bare => .bare
  | single answer => .single answer.command
  | several answers _ => .several (answers.map Command.Spelling.command)

def bytes : Reply.Spelling → Bytes
  | bare => []
  | single answer => answer.bytes
  | several answers _ => Word.bytes 4 answers.length ++ answers.flatMap Command.Spelling.bytes

end Reply.Spelling

namespace Container

/-- What follows the status is what a reader of the status expects. -/
def Shaped (c : Container) : Prop :=
  match c.reply with
  | .bare => c.status.isOk = false ∨ Code.isStatusOnly c.status.command = true
  | .single _ => c.status.isOk = true ∧ Code.isStatusOnly c.status.command = false ∧
      c.status.command ≠ Code.simulationStep
  | .several _ => c.status.isOk = true ∧ Code.isStatusOnly c.status.command = false ∧
      c.status.command = Code.simulationStep

instance : DecidablePred Shaped
  | ⟨_, .bare⟩ => inferInstanceAs (Decidable (_ ∨ _))
  | ⟨_, .single _⟩ => inferInstanceAs (Decidable (_ ∧ _))
  | ⟨_, .several _⟩ => inferInstanceAs (Decidable (_ ∧ _))

/-- A status and what follows it, of the shape that the status announces. -/
@[ext] structure Spelling where
  status : Status.Spelling
  reply : Reply.Spelling
  shaped : Shaped ⟨status.status, reply.reply⟩

namespace Spelling

/-- What the spelling says. -/
def container (s : Spelling) : Container := ⟨s.status.status, s.reply.reply⟩

/-- The commands of a container, the status first. -/
def commands (s : Spelling) : List Command.Spelling := s.status.command :: s.reply.commands

def bytes (s : Spelling) : Bytes := s.status.bytes ++ s.reply.bytes

theorem bytes_ne_nil (s : Spelling) : s.bytes ≠ [] :=
  List.append_ne_nil_of_left_ne_nil s.status.command.bytes_ne_nil _

end Spelling

end Container

/-! ### Frames -/

/-- A byte string is its own length in four bytes and then the bytes of pieces, in order. -/
structure Frame.Spells {ι : Type} (bytes : ι → Bytes) (pieces : List ι) (frame : Bytes) : Prop where
  fits : frame.length < UInt32.size
  frame_eq : frame = Word.bytes 4 frame.length ++ pieces.flatMap bytes

end TrafficControl
