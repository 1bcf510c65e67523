import TrafficControl.Proofs.Protocol.MessageGrammar

/-!
# Canonical spelling

Of all spellings of a message the writer picks the shortest: it gives the length of a command in the
short form wherever that is possible, and writes nothing behind the description of a status. So what was
decoded can be written again, never takes up more bytes, and takes up fewer exactly if it was spelled
otherwise. `e.Tightens bytes canonical` says this of a piece; it is closed under sequencing, so a whole
response follows from its commands.
-/

namespace TrafficControl

/-! ### What is written again -/

/-- A piece of writing is not stopped and says again what some bytes say: in the same bytes if these
were canonical, and in fewer otherwise. -/
structure Emission.Tightens (e : Emission) (bytes : Bytes) (canonical : Prop) : Prop where
  complete : e.stopped = none
  same : canonical → e.bytes = bytes
  shorter : ¬ canonical → e.bytes.length < bytes.length

namespace Emission.Tightens

variable {e e' : Emission} {bs bs' : Bytes} {p q : Prop}

theorem length_le (h : e.Tightens bs p) : e.bytes.length ≤ bs.length := by
  by_cases hp : p
  · exact Nat.le_of_eq (congrArg List.length (h.same hp))
  · exact Nat.le_of_lt (h.shorter hp)

theorem bytes_eq_iff (h : e.Tightens bs p) : e.bytes = bs ↔ p := by
  constructor
  · intro heq
    by_cases hp : p
    · exact hp
    · have hlt := h.shorter hp
      rw [heq] at hlt
      exact absurd hlt (Nat.lt_irrefl _)
  · exact h.same

theorem exactly (bs : Bytes) (hp : p) : (Emission.raw bs).Tightens bs p :=
  ⟨rfl, fun _ => rfl, fun h => absurd hp h⟩

theorem of_lt (hs : e.stopped = none) (hlt : e.bytes.length < bs.length) (hp : ¬ p) :
    e.Tightens bs p :=
  ⟨hs, fun h => absurd h hp, fun _ => hlt⟩

theorem congr (h : e.Tightens bs p) (hpq : p ↔ q) : e.Tightens bs q := by
  rwa [← propext hpq]

theorem append (h : e.Tightens bs p) (h' : e'.Tightens bs' q) :
    (e ++ e').Tightens (bs ++ bs') (p ∧ q) where
  complete := Emission.append_stopped_eq_none.mpr ⟨h.complete, h'.complete⟩
  same := by
    rintro ⟨hp, hq⟩
    rw [Emission.append_bytes e' h.complete, h.same hp, h'.same hq]
  shorter := by
    intro hpq
    rw [Emission.append_bytes e' h.complete, List.length_append, List.length_append]
    have hle := h.length_le
    have hle' := h'.length_le
    by_cases hp : p
    · have hlt := h'.shorter fun hq => hpq ⟨hp, hq⟩
      omega
    · have hlt := h.shorter hp
      omega

theorem concat {ι : Type} {write : ι → Emission} {bytes : ι → Bytes} {canonical : ι → Prop}
    (h : ∀ i, (write i).Tightens (bytes i) (canonical i)) (is : List ι) :
    (Emission.concat (is.map write)).Tightens (is.flatMap bytes) (∀ i ∈ is, canonical i) := by
  induction is with
  | nil => exact exactly [] (by simp)
  | cons i is ih => exact ((h i).append ih).congr (by simp)

end Emission.Tightens

/-! ### Commands -/

namespace Command

/-- The short form is used wherever the payload allows it. -/
def Spelling.Canonical (s : Spelling) : Prop := s.command.payload.length ≤ 253 → s.form = .short

theorem Spelling.length_le_of_short {s : Spelling} (h : s.form = .short) :
    s.command.payload.length ≤ 253 := by
  have hfits := s.fits
  simp only [h, LengthForm.width, LengthForm.bound, UInt8.size] at hfits
  omega

/-- A command is written in the form of its spelling exactly if that is canonical. -/
theorem Spelling.canonical_iff (s : Spelling) : s.Canonical ↔ s.form = s.command.form := by
  unfold Canonical
  by_cases hlong : 253 < s.command.payload.length
  · have hform : s.form ≠ .short := fun h => absurd (length_le_of_short h) (Nat.not_le.mpr hlong)
    rw [form_of_lt hlong]
    cases hs : s.form with
    | short => exact absurd hs hform
    | long => simp [Nat.not_le.mpr hlong]
  · have hle := Nat.not_lt.mp hlong
    simp [form_of_le hle, hle]

theorem Spelling.forall_canonical_iff {s : List Spelling} :
    (∀ c ∈ s, c.Canonical) ↔ ¬ ∃ c ∈ s, c.command.payload.length ≤ 253 ∧ c.form = .long := by
  have hnot : ∀ form : LengthForm, form = .short ↔ form ≠ .long := by
    intro form
    cases form <;> simp
  simp [Canonical, hnot]

/-- A command that carries no more than one that was spelled gets no longer length field. -/
theorem width_form_le {c : Command} {s : Spelling}
    (h : c.payload.length ≤ s.command.payload.length) : c.form.width ≤ s.form.width := by
  cases hs : s.form with
  | short =>
    have hform : c.form = .short := form_of_le (Nat.le_trans h (Spelling.length_le_of_short hs))
    exact Nat.le_of_eq (congrArg LengthForm.width hform)
  | long =>
    cases c.form <;> simp [LengthForm.width]

/-- A command that carries no more than one that was spelled can be written. -/
theorem size_lt_of_le {c : Command} {s : Spelling}
    (h : c.payload.length ≤ s.command.payload.length) : c.size < UInt32.size := by
  have hwidth := width_form_le h
  have hfits := s.fits
  have hbound := s.form.bound_le
  rw [size_eq]
  omega

/-- A command that carries no more than one that was spelled, and does carry less or has another form,
is written in fewer bytes. -/
theorem emit_shorter {c : Command} {s : Spelling}
    (h : c.payload.length ≤ s.command.payload.length)
    (hother : c.payload.length < s.command.payload.length ∨ s.form ≠ c.form) :
    c.emit.stopped = none ∧ c.emit.bytes.length < s.bytes.length := by
  rw [emit_of_size_lt (size_lt_of_le h)]
  refine ⟨rfl, ?_⟩
  show (c.written _).bytes.length < s.bytes.length
  simp only [Spelling.length_bytes, Spelling.size, written]
  have hwidth := width_form_le h
  rcases hother with hless | hform
  · omega
  · have hne := mt LengthForm.width_injective hform
    omega

theorem Spelling.tightens (s : Spelling) : s.command.emit.Tightens s.bytes s.Canonical := by
  have hle : s.command.payload.length ≤ s.command.payload.length := Nat.le_refl _
  by_cases hcanonical : s.Canonical
  · have hsame : s.command.written (size_lt_of_le hle) = s :=
      Spelling.ext (s.canonical_iff.mp hcanonical).symm rfl
    rw [emit_of_size_lt (size_lt_of_le hle), hsame]
    exact .exactly _ hcanonical
  · obtain ⟨hs, hlt⟩ := emit_shorter hle (.inr (mt s.canonical_iff.mpr hcanonical))
    exact .of_lt hs hlt hcanonical

end Command

/-! ### Statuses -/

namespace Status

/-- The length is canonical and nothing stands behind the description. -/
def Spelling.Canonical (s : Spelling) : Prop := s.command.Canonical ∧ s.further = []

theorem Spelling.tightens (s : Spelling) : s.status.emit.Tightens s.bytes s.Canonical := by
  rw [emit_of_countable s.countable]
  by_cases hfurther : s.further = []
  · have hblock : s.status.block [] = s.command.command := by
      rw [← hfurther]
      rfl
    rw [hblock]
    exact s.command.tightens.congr (by simp [Canonical, hfurther])
  · have hless : (s.status.block []).payload.length < s.command.command.payload.length := by
      have hpos := List.length_pos_iff.mpr hfurther
      simp only [command, block, List.length_cons, List.length_append, List.length_nil]
      omega
    obtain ⟨hs, hlt⟩ := Command.emit_shorter (Nat.le_of_lt hless) (.inl hless)
    exact .of_lt hs hlt fun h => hfurther h.2

end Status

/-! ### Containers -/

namespace Container

/-- Every command has a canonical length, and nothing stands behind the description of the
status. -/
def Spelling.Canonical (s : Spelling) : Prop :=
  (∀ c ∈ s.commands, c.Canonical) ∧ s.status.further = []

theorem Spelling.tightens_reply (s : Spelling) :
    s.container.emitReply.Tightens s.reply.bytes (∀ c ∈ s.reply.commands, c.Canonical) := by
  obtain ⟨status, reply, hshaped⟩ := s
  cases reply with
  | bare => exact .exactly [] (by simp [Reply.Spelling.commands])
  | single answer => exact answer.tightens.congr (by simp [Reply.Spelling.commands])
  | several answers hcount =>
    have hanswers := (Emission.Tightens.exactly (Word.bytes 4 answers.length) trivial).append
      (Emission.Tightens.concat Command.Spelling.tightens answers)
    show (Emission.count (answers.map Command.Spelling.command).length ++
      Emission.concat ((answers.map Command.Spelling.command).map Command.emit)).Tightens _ _
    rw [List.length_map, Emission.count_of_lt hcount, List.map_map]
    exact hanswers.congr (by simp [Reply.Spelling.commands])

theorem Spelling.tightens (s : Spelling) : s.container.emit.Tightens s.bytes s.Canonical := by
  refine (s.status.tightens.append s.tightens_reply).congr ?_
  simp only [Canonical, commands, Status.Spelling.Canonical, List.forall_mem_cons]
  exact and_right_comm

end Container

/-! ### Frames -/

/-- A frame closed around writing that tightens what another frame spells is no longer than that, and
the same exactly if what it spells was canonical. -/
theorem Frame.Spells.tightens {ι : Type} {bytes : ι → Bytes} {pieces : List ι} {frame : Bytes}
    (h : Spells bytes pieces frame) {body : Emission} {canonical : Prop}
    (hbody : body.Tightens (pieces.flatMap bytes) canonical) :
    ∃ frame', close body = .ok frame' ∧ frame'.length ≤ frame.length ∧
      (frame' = frame ↔ canonical) := by
  obtain ⟨-, hfits, rfl⟩ := close_eq_ok_iff.mp (spells_iff_close.mp h)
  have hle := hbody.length_le
  have hfits' : 4 + body.bytes.length < UInt32.size := by
    simp only [Emission.raw] at hfits
    omega
  refine ⟨_, close_eq_ok_iff.mpr ⟨hbody.complete, hfits', rfl⟩, ?_, ?_⟩
  · simp only [Emission.raw, List.length_append, Word.length_bytes]
    omega
  · rw [← hbody.bytes_eq_iff]
    constructor
    · intro heq
      exact (List.append_inj heq (by simp only [Word.length_bytes])).2
    · intro heq
      rw [heq]
      rfl

/-! ### Requests -/

namespace Request

theorem Spells.tightens {s : List Command.Spelling} {frame : Bytes} (h : Spells s frame) :
    ∃ frame', encode (s.map Command.Spelling.command) = .ok frame' ∧
      frame'.length ≤ frame.length ∧ (frame' = frame ↔ ∀ c ∈ s, c.Canonical) := by
  have hbody := Emission.Tightens.concat Command.Spelling.tightens s
  unfold encode
  rw [List.map_map]
  exact Frame.Spells.tightens h hbody

/-- What was written starts with its own length and is decoded to what was written. What was decoded is
written again, in no more bytes, and decoded again to the same. The bytes are the same exactly if no
command of the frame with a payload of at most 253 bytes gave its length in the long form. -/
theorem encode_decode_inverse :
    (∀ (commands : List Command) (frame : Bytes), encode commands = .ok frame →
      Word.value (frame.take 4) = frame.length ∧ 4 ≤ frame.length ∧
        decode frame = .ok commands) ∧
    ∀ (frame : Bytes) (commands : List Command), decode frame = .ok commands →
      ∃ frame', encode commands = .ok frame' ∧ frame'.length ≤ frame.length ∧
        decode frame' = .ok commands ∧ (∃! s, Spells s frame) ∧
        ∀ s, Spells s frame →
          (frame' = frame ↔ ¬ ∃ c ∈ s, c.command.payload.length ≤ 253 ∧ c.form = .long) := by
  refine ⟨?_, ?_⟩
  · intro commands frame h
    obtain ⟨hvalue, hmin⟩ := Frame.value_take_of_close h
    exact ⟨hvalue, hmin, decode_encode h⟩
  · intro frame commands h
    obtain ⟨s, hs, rfl⟩ := decode_eq_ok_iff.mp h
    obtain ⟨frame', hencode, hle, hsame⟩ := hs.tightens
    refine ⟨frame', hencode, hle, decode_encode hencode, ⟨s, hs, fun t ht => ht.unique hs⟩, ?_⟩
    intro t ht
    rw [ht.unique hs, hsame]
    exact Command.Spelling.forall_canonical_iff

/-- Commands on both sides of the boundary between the forms, each with its length in the given form. -/
def atBoundary (form : LengthForm) (h : form.width + 1 + 253 < form.bound) : List Command.Spelling :=
  [⟨form, ⟨Code.getVehicle, List.replicate 253 65⟩, by rwa [List.length_replicate]⟩,
    ⟨.long, ⟨Code.setVehicle, List.replicate 254 66⟩, by rw [List.length_replicate]; decide⟩]

/-- The commands on both sides of the boundary. -/
def boundary : List Command := (atBoundary .long (by decide)).map Command.Spelling.command

/-- The frame in which both commands give their length in the long form. -/
def looseFrame : Bytes :=
  Word.bytes 4 523 ++ (atBoundary .long (by decide)).flatMap Command.Spelling.bytes

/-- The frame in which only the longer command does. -/
def tightFrame : Bytes :=
  Word.bytes 4 519 ++ (atBoundary .short (by decide)).flatMap Command.Spelling.bytes

theorem boundary_frame_tightened :
    encode boundary = .ok tightFrame ∧ Word.value (tightFrame.take 4) = 519 ∧
      decode tightFrame = .ok boundary ∧ decode looseFrame = .ok boundary ∧
      ∀ s, Spells s looseFrame →
        ∃ c ∈ s, c.command.payload.length ≤ 253 ∧ c.form = .long := by
  have hencode : encode boundary = .ok tightFrame := by
    have htight : Spells (atBoundary .short (by decide)) tightFrame :=
      ⟨by decide +kernel, by decide +kernel⟩
    obtain ⟨frame, hencode, -, hsame⟩ := htight.tightens
    have hcanonical : ∀ c ∈ atBoundary .short (by decide), c.Canonical := by
      refine List.forall_mem_cons.mpr ⟨fun _ => rfl, List.forall_mem_singleton.mpr ?_⟩
      intro hle
      have hlen : (List.replicate 254 (66 : UInt8)).length = 254 := List.length_replicate
      exact absurd (hlen ▸ hle) (by decide)
    rw [hsame.mpr hcanonical] at hencode
    exact hencode
  obtain ⟨hvalue, -, hback⟩ := encode_decode_inverse.1 boundary tightFrame hencode
  have hspells : Spells (atBoundary .long (by decide)) looseFrame :=
    ⟨by decide +kernel, by decide +kernel⟩
  have hdecode : decode looseFrame = .ok boundary := decode_eq_ok_iff.mpr ⟨_, hspells, rfl⟩
  obtain ⟨frame', hencode', hle, -, -, hform⟩ := encode_decode_inverse.2 looseFrame boundary hdecode
  cases hencode.symm.trans hencode'
  refine ⟨hencode, ?_, hback, hdecode, ?_⟩
  · rw [hvalue]
    decide +kernel
  · intro s hs
    have hother : tightFrame ≠ looseFrame := by decide +kernel
    exact Decidable.not_not.mp (mt (hform s hs).mpr hother)

end Request

/-! ### Responses -/

namespace Response

theorem Spells.tightens {s : List Container.Spelling} {frame : Bytes} (h : Spells s frame) :
    ∃ frame', encode (s.map Container.Spelling.container) = .ok frame' ∧
      frame'.length ≤ frame.length ∧ (frame' = frame ↔ ∀ c ∈ s, c.Canonical) := by
  have hbody := Emission.Tightens.concat Container.Spelling.tightens s
  unfold encode
  rw [List.map_map]
  exact Frame.Spells.tightens h hbody

/-- What was decoded is written again, in no more bytes, and decoded again to the same. The bytes are
the same exactly if every command of the frame with a payload of at most 253 bytes gave its length in
the short form and no status had bytes behind its description. -/
theorem encode_of_decoded {frame : Bytes} {containers : List Container}
    (h : decode frame = .ok containers) :
    ∃ frame', encode containers = .ok frame' ∧ frame'.length ≤ frame.length ∧
      decode frame' = .ok containers ∧
      (∃! s, Spells s frame) ∧ ∀ s, Spells s frame → (frame' = frame ↔ ∀ c ∈ s, c.Canonical) := by
  obtain ⟨s, hs, rfl⟩ := decode_eq_ok_iff.mp h
  obtain ⟨frame', hencode, hle, hsame⟩ := hs.tightens
  refine ⟨frame', hencode, hle, decode_encode hencode (shaped_of_decode h), ?_, ?_⟩
  · exact ⟨s, hs, fun t ht => ht.unique hs⟩
  · intro t ht
    rwa [ht.unique hs]

/-- The answers to a step and to a refused question. The one answer of the step gives its length in
the long form, and a byte stands behind the description of the refusal. -/
def looseSpelling : List Container.Spelling :=
  [{ status := ⟨⟨Code.simulationStep, 0, ""⟩, .short, [], by decide, by decide⟩
     reply := .several [⟨.long, ⟨0xb4, [1, 2]⟩, by decide⟩] (by decide)
     shaped := by decide },
    { status := ⟨⟨Code.getVehicle, 0xff, "no"⟩, .short, [42], by decide, by decide⟩
      reply := .bare
      shaped := by decide }]

def refused : List Container := looseSpelling.map Container.Spelling.container

def looseFrame : Bytes :=
  [0, 0, 0, 33, 7, 2, 0, 0, 0, 0, 0, 0, 0, 0, 1, 0, 0, 0, 0, 8, 0xb4, 1, 2,
    10, 0xa4, 0xff, 0, 0, 0, 2, 110, 111, 42]

def tightFrame : Bytes :=
  [0, 0, 0, 28, 7, 2, 0, 0, 0, 0, 0, 0, 0, 0, 1, 4, 0xb4, 1, 2, 9, 0xa4, 0xff, 0, 0, 0, 2, 110, 111]

theorem loose_frame_tightened :
    decode looseFrame = .ok refused ∧ encode refused = .ok tightFrame ∧
      decode tightFrame = .ok refused ∧ (∃! s, Spells s looseFrame) ∧
      ∀ s, Spells s looseFrame → ¬ ∀ c ∈ s, c.Canonical := by
  have hdecode : decode looseFrame = .ok refused :=
    decode_eq_ok_iff.mpr ⟨looseSpelling, ⟨by decide, rfl⟩, rfl⟩
  have hencode : encode refused = .ok tightFrame := rfl
  obtain ⟨frame', hencode', -, hback, hunique, hcanonical⟩ := encode_of_decoded hdecode
  cases hencode.symm.trans hencode'
  refine ⟨hdecode, hencode, hback, hunique, ?_⟩
  intro s hs hall
  exact absurd ((hcanonical s hs).mpr hall) (by decide)

end Response

end TrafficControl
