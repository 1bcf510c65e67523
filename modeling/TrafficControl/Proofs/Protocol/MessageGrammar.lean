import Mathlib.Logic.ExistsUnique
import TrafficControl.Proofs.Protocol.MessageTakes

/-!
# The grammar of messages

The stream of answers does not say where a container ends; that depends on the status before it. Still
no byte string can be taken apart in two ways: commands, statuses and containers are told from what
follows them (`Unambiguous`), and so are whole frames. So the frames that are decoded are just those
that the spellings spell, each as one message, and a message is read back from its own frame exactly
if its containers have the shapes that their statuses announce.
-/

namespace TrafficControl

open Reader

/-! ### Where the bytes of a piece end -/

/-- A piece is known from its bytes, whatever follows them. -/
def Unambiguous {ι : Type} (bytes : ι → Bytes) : Prop :=
  ∀ ⦃i j : ι⦄ ⦃rest rest' : Bytes⦄, bytes i ++ rest = bytes j ++ rest' → i = j ∧ rest = rest'

namespace Unambiguous

variable {ι : Type} {bytes : ι → Bytes} {is js : List ι}

/-- As many pieces one after another are known from their bytes. -/
theorem flatMap (h : Unambiguous bytes) {rest rest' : Bytes} (hlen : is.length = js.length)
    (heq : is.flatMap bytes ++ rest = js.flatMap bytes ++ rest') : is = js ∧ rest = rest' := by
  induction is generalizing js with
  | nil =>
    obtain rfl := List.length_eq_zero_iff.mp hlen.symm
    exact ⟨rfl, heq⟩
  | cons i is ih =>
    cases js with
    | nil => cases hlen
    | cons j js =>
      simp only [List.flatMap_cons, List.append_assoc] at heq
      obtain ⟨rfl, htail⟩ := h heq
      obtain ⟨rfl, hrest⟩ := ih (Nat.succ.inj hlen) htail
      exact ⟨rfl, hrest⟩

/-- Pieces up to the end are known from their bytes, if each of them takes up bytes. -/
theorem flatMap_injective (h : Unambiguous bytes) (hne : ∀ i, bytes i ≠ [])
    (heq : is.flatMap bytes = js.flatMap bytes) : is = js := by
  induction is generalizing js with
  | nil =>
    cases js with
    | nil => rfl
    | cons j js =>
      have hnil := List.flatMap_eq_nil_iff.mp heq.symm j List.mem_cons_self
      exact absurd hnil (hne j)
  | cons i is ih =>
    cases js with
    | nil =>
      have hnil := List.flatMap_eq_nil_iff.mp heq i List.mem_cons_self
      exact absurd hnil (hne i)
    | cons j js =>
      simp only [List.flatMap_cons] at heq
      obtain ⟨rfl, htail⟩ := h heq
      rw [ih htail]

end Unambiguous

/-- A frame spells pieces in one way. -/
theorem Frame.Spells.unique {ι : Type} {bytes : ι → Bytes} (h : Unambiguous bytes)
    (hne : ∀ i, bytes i ≠ []) {is js : List ι} {frame : Bytes} (his : Spells bytes is frame)
    (hjs : Spells bytes js frame) : is = js := by
  have hsame : Word.bytes 4 frame.length ++ is.flatMap bytes =
      Word.bytes 4 frame.length ++ js.flatMap bytes := by
    rw [← his.frame_eq, ← hjs.frame_eq]
  exact h.flatMap_injective hne (List.append_cancel_left hsame)

theorem Command.Spelling.unambiguous : Unambiguous Command.Spelling.bytes := by
  intro s t rest rest' heq
  obtain ⟨hcommand, hbytes, hrest⟩ := s.reads.unique t.reads heq
  refine ⟨Command.Spelling.ext ?_ hcommand, hrest⟩
  -- one command has different lengths in the two forms
  have hlen := congrArg List.length hbytes
  simp only [length_bytes, size, hcommand] at hlen
  have hwidth : s.form.width = t.form.width := by omega
  exact LengthForm.width_injective hwidth

theorem Status.Spelling.unambiguous : Unambiguous Status.Spelling.bytes := by
  intro s t rest rest' heq
  obtain ⟨hstatus, -, hrest⟩ := s.reads.unique t.reads heq
  obtain ⟨hcommand, -⟩ := Command.Spelling.unambiguous heq
  have hform : s.form = t.form := congrArg Command.Spelling.form hcommand
  have hblock : s.status.block s.further = t.status.block t.further :=
    congrArg Command.Spelling.command hcommand
  rw [hstatus] at hblock
  have hfurther : s.further = t.further := by
    simpa [Status.block] using hblock
  exact ⟨Status.Spelling.ext hstatus hform hfurther, hrest⟩

/-- What is known to say the same is known from its bytes. -/
theorem Reply.Spelling.eq_of_reply {r r' : Reply.Spelling} {rest rest' : Bytes}
    (hsame : r.reply = r'.reply) (heq : r.bytes ++ rest = r'.bytes ++ rest') : r = r' := by
  cases r with
  | bare =>
    cases r' with
    | bare => rfl
    | single _ => cases hsame
    | several _ _ => cases hsame
  | single answer =>
    cases r' with
    | bare => cases hsame
    | single answer' =>
      obtain ⟨rfl, -⟩ := Command.Spelling.unambiguous heq
      rfl
    | several _ _ => cases hsame
  | several answers hcount =>
    cases r' with
    | bare => cases hsame
    | single _ => cases hsame
    | several answers' hcount' =>
      have hlen : answers.length = answers'.length := by
        have hmap : answers.map Command.Spelling.command = answers'.map Command.Spelling.command := by
          injection hsame
        simpa using congrArg List.length hmap
      simp only [bytes, hlen, List.append_assoc, List.append_cancel_left_eq] at heq
      obtain ⟨rfl, -⟩ := Command.Spelling.unambiguous.flatMap hlen heq
      rfl

theorem Container.Spelling.unambiguous : Unambiguous Container.Spelling.bytes := by
  intro s t rest rest' heq
  obtain ⟨hcontainer, -, hrest⟩ := s.reads.unique t.reads heq
  have hsame : s.reply.reply = t.reply.reply := congrArg Container.reply hcontainer
  simp only [bytes, List.append_assoc] at heq
  obtain ⟨hstatus, hreply⟩ := Status.Spelling.unambiguous heq
  exact ⟨Container.Spelling.ext hstatus (Reply.Spelling.eq_of_reply hsame hreply), hrest⟩

/-! ### Requests -/

namespace Request

/-- A byte string spells a request: it is its own length in four bytes and then the bytes of the
commands, in order. -/
def Spells (spelling : List Command.Spelling) (frame : Bytes) : Prop :=
  Frame.Spells Command.Spelling.bytes spelling frame

theorem Spells.unique {s t : List Command.Spelling} {frame : Bytes} (hs : Spells s frame)
    (ht : Spells t frame) : s = t :=
  Frame.Spells.unique Command.Spelling.unambiguous Command.Spelling.bytes_ne_nil hs ht

/-- A frame is decoded to just what it spells. -/
theorem decode_eq_ok_iff {frame : Bytes} {commands : List Command} :
    decode frame = .ok commands ↔
      ∃ s, Spells s frame ∧ s.map Command.Spelling.command = commands := by
  constructor
  · exact Frame.spells_of_decode Command.spelled_read Command.Spelling.bytes_ne_nil
  · rintro ⟨s, hs, rfl⟩
    exact Frame.decode_of_spells hs (fun c _ => c.reads) fun c _ => c.bytes_ne_nil

end Request

/-! ### Responses -/

namespace Response

/-- A byte string spells a response: it is its own length in four bytes and then the bytes of the
containers, in order. -/
def Spells (spelling : List Container.Spelling) (frame : Bytes) : Prop :=
  Frame.Spells Container.Spelling.bytes spelling frame

theorem Spells.unique {s t : List Container.Spelling} {frame : Bytes} (hs : Spells s frame)
    (ht : Spells t frame) : s = t :=
  Frame.Spells.unique Container.Spelling.unambiguous Container.Spelling.bytes_ne_nil hs ht

/-- A frame is decoded to just what it spells. -/
theorem decode_eq_ok_iff {frame : Bytes} {containers : List Container} :
    decode frame = .ok containers ↔
      ∃ s, Spells s frame ∧ s.map Container.Spelling.container = containers := by
  constructor
  · exact Frame.spells_of_decode Container.spelled_read Container.Spelling.bytes_ne_nil
  · rintro ⟨s, hs, rfl⟩
    exact Frame.decode_of_spells hs (fun c _ => c.reads) fun c _ => c.bytes_ne_nil

theorem shaped_of_decode {frame : Bytes} {containers : List Container}
    (h : decode frame = .ok containers) : ∀ c ∈ containers, c.Shaped := by
  obtain ⟨s, -, rfl⟩ := decode_eq_ok_iff.mp h
  intro c hc
  obtain ⟨piece, -, rfl⟩ := List.mem_map.mp hc
  exact piece.shaped

/-- A byte string is decoded to a message exactly if it spells that message. A byte string that is
accepted is spelled in one way and decoded to one message; every other is an error. -/
theorem decode_accepts_grammar (frame : Bytes) :
    (∀ containers, decode frame = .ok containers ↔
      ∃ s, Spells s frame ∧ s.map Container.Spelling.container = containers) ∧
    (((∃! s, Spells s frame) ∧ ∃! containers, decode frame = .ok containers) ∨
      ((¬ ∃ s, Spells s frame) ∧ ∃ e, decode frame = .error e)) := by
  refine ⟨fun _ => decode_eq_ok_iff, ?_⟩
  rcases hdecode : decode frame with e | containers
  · right
    refine ⟨?_, e, rfl⟩
    rintro ⟨s, hs⟩
    have hok := decode_eq_ok_iff.mpr ⟨s, hs, rfl⟩
    rw [hdecode] at hok
    cases hok
  · left
    obtain ⟨s, hs, -⟩ := decode_eq_ok_iff.mp hdecode
    refine ⟨⟨s, hs, fun t ht => ht.unique hs⟩, containers, rfl, ?_⟩
    intro other hother
    cases hother
    rfl

/-- A message that was written is read back from its own frame exactly if its containers have the
shapes that their statuses announce. -/
theorem decode_own_frame_iff {containers : List Container} {frame : Bytes}
    (h : encode containers = .ok frame) :
    decode frame = .ok containers ↔ ∀ c ∈ containers, c.Shaped := by
  constructor
  · exact shaped_of_decode
  · exact decode_encode h

/-- Containers of every shape. -/
def answered : List Container :=
  [⟨⟨Code.simulationStep, 0, ""⟩, .several []⟩, ⟨⟨Code.getVehicle, 0, ""⟩, .single ⟨0xb4, [1, 2]⟩⟩,
    ⟨⟨Code.setVehicle, 0, ""⟩, .bare⟩, ⟨⟨Code.getVehicle, 0xff, ""⟩, .bare⟩]

/-- A question that was accepted and not answered, and another container behind it. -/
def unanswered : List Container :=
  [⟨⟨Code.getVehicle, 0, ""⟩, .bare⟩, ⟨⟨Code.close, 0, ""⟩, .bare⟩]

theorem answered_read_back_unanswered_not :
    (∃ frame, encode answered = .ok frame ∧ decode frame = .ok answered) ∧
      ∃ frame, encode unanswered = .ok frame ∧ decode frame ≠ .ok unanswered := by
  refine ⟨⟨_, rfl, (decode_own_frame_iff rfl).mpr (by decide)⟩, _, rfl, ?_⟩
  intro h
  exact absurd ((decode_own_frame_iff rfl).mp h) (by decide)

end Response

end TrafficControl
