import TrafficControl.Proofs.Bytes.Reads
import TrafficControl.Proofs.Protocol.Spelling

/-!
# Messages are read back

Commands are read back in either form, whatever form they are written in. What follows a status is
not marked as such, so a container is read back only if it has the shape that its status announces
(`Container.Shaped`). Whole frames are read back from their bytes, and no byte is left over. Each
statement is made of what is written and of every other spelling at once, where the two differ only in
their parts.
-/

namespace TrafficControl

open Reader

/-! ### Commands -/

/-- A length is read back as the number of bytes that follow it. -/
theorem LengthForm.reads_field (form : LengthForm) {n : Nat} (hwidth : form.width < n)
    (hfits : n < form.bound) :
    Command.readLength.Reads (.raw (form.field n)) (n - form.width) := by
  cases form with
  | short =>
    have htoNat : (UInt8.ofNat n).toNat = n := UInt8.toNat_ofNat_of_lt' hfits
    have hne : UInt8.ofNat n ≠ 0 := by
      intro h
      have hzero : n = 0 := by simpa [h] using htoNat.symm
      omega
    refine (reads_byte _).bind_pure ?_
    simp only [width] at hwidth ⊢
    rw [if_neg hne, htoNat, if_neg (by omega)]
  | long =>
    show Command.readLength.Reads (.byte 0 ++ .word 4 n) _
    refine (reads_byte 0).bind ((reads_word hfits).bind_pure ?_)
    simp only [width] at hwidth ⊢
    rw [if_neg (by omega)]

namespace Command

theorem Spelling.reads (s : Spelling) : read.Reads (.raw s.bytes) s.command := by
  have hlength : readLength.Reads (.raw (s.form.field s.size))
      (s.command.id :: s.command.payload).length := by
    have hread := s.form.reads_field (n := s.size) (by simp only [size]; omega) s.fits
    have hrest : s.size - s.form.width = s.command.payload.length + 1 := by
      simp only [size]
      omega
    rwa [hrest] at hread
  show read.Reads (.raw (s.form.field s.size) ++ .raw (s.command.id :: s.command.payload)) _
  exact hlength.bind ((reads_take (s.command.id :: s.command.payload)).bind_pure rfl)

/-- The form in which a command is written. -/
def form (c : Command) : LengthForm := if c.isLong then .long else .short

theorem form_of_lt {c : Command} (h : 253 < c.payload.length) : c.form = .long := by
  simp [form, isLong, h]

theorem form_of_le {c : Command} (h : c.payload.length ≤ 253) : c.form = .short := by
  simp [form, isLong, Nat.not_lt.mpr h]

theorem size_eq (c : Command) : c.size = c.form.width + 1 + c.payload.length := by
  unfold size form
  split <;> rfl

/-- A short form is chosen only for what fits it. -/
theorem size_lt_bound {c : Command} (h : c.size < UInt32.size) : c.size < c.form.bound := by
  by_cases hlong : 253 < c.payload.length
  · rwa [form_of_lt hlong]
  · have hform := form_of_le (Nat.not_lt.mp hlong)
    rw [size_eq, hform]
    simp only [LengthForm.width, LengthForm.bound, UInt8.size]
    omega

/-- The spelling in which a command is written. -/
def written (c : Command) (h : c.size < UInt32.size) : Spelling where
  form := c.form
  command := c
  fits := by
    rw [← size_eq]
    exact size_lt_bound h

/-- A command is written if its length fits the long form. -/
theorem emit_of_size_lt {c : Command} (h : c.size < UInt32.size) : c.emit = .raw (c.written h).bytes := by
  have hsize : (c.written h).size = c.size := c.size_eq.symm
  unfold emit Spelling.bytes
  rw [hsize]
  by_cases hlong : c.isLong
  · simp only [written, form, if_pos hlong, if_pos h]
    rfl
  · simp only [written, form, if_neg hlong]
    rfl

theorem size_lt_of_emit {c : Command} (hs : c.emit.stopped = none) : c.size < UInt32.size := by
  by_cases hlong : c.isLong
  · by_cases hsize : c.size < UInt32.size
    · exact hsize
    · unfold emit at hs
      simp only [if_pos hlong, if_neg hsize] at hs
      cases hs
  · have hle : ¬ 253 < c.payload.length := fun h => hlong (decide_eq_true h)
    simp only [size, if_neg hlong, UInt32.size]
    omega

theorem reads_read (c : Command) : read.Reads c.emit c := by
  refine .of_complete fun hs => ?_
  rw [emit_of_size_lt (size_lt_of_emit hs)]
  exact (c.written _).reads

theorem emit_bytes_ne_nil (c : Command) (hs : c.emit.stopped = none) : c.emit.bytes ≠ [] := by
  rw [emit_of_size_lt (size_lt_of_emit hs)]
  exact (c.written _).bytes_ne_nil

end Command

/-! ### Statuses -/

namespace Status

/-- Takes what the payload of a status says. -/
def readFields : Reader (UInt8 × String) := do
  let result ← Reader.byte
  let description ← Reader.text
  pure (result, description)

theorem reads_fields {s : Status} (further : Bytes)
    (hcount : (Utf8.bytes s.description).length < Emission.countBound) :
    ∃ pos, readFields (s.block further).cursor = .ok (s.result, s.description) ⟨further, pos⟩ := by
  have hfields : readFields.Reads (.byte s.result ++ .text s.description) (s.result, s.description) :=
    (reads_byte s.result).bind ((reads_text s.description).bind_pure rfl)
  rw [Emission.text_of_lt hcount] at hfields
  exact ⟨_, hfields rfl further 0⟩

/-- A status is read from its command, in whatever form that is written. -/
theorem reads_of_block {s : Status} {further : Bytes} {e : Emission}
    (hcount : (Utf8.bytes s.description).length < Emission.countBound)
    (he : Command.read.Reads e (s.block further)) : read.Reads e s := by
  obtain ⟨pos, hfields⟩ := reads_fields further hcount
  unfold readFields at hfields
  refine he.bind_pure ?_
  dsimp only
  rw [hfields]
  rfl

theorem Spelling.reads (s : Spelling) : read.Reads (.raw s.bytes) s.status :=
  reads_of_block s.countable s.command.reads

/-- A status is written as its command, if its description can be counted. -/
theorem emit_of_countable {s : Status}
    (hcount : (Utf8.bytes s.description).length < Emission.countBound) :
    s.emit = (s.block []).emit := by
  unfold emit block
  rw [Emission.text_of_lt hcount, List.append_nil]
  rfl

theorem countable_of_emit {s : Status} (hs : s.emit.stopped = none) :
    (Utf8.bytes s.description).length < Emission.countBound := by
  unfold emit at hs
  dsimp only at hs
  split at hs
  · next bytes hbytes =>
    have hpayload := (Emission.result_eq_ok_iff.mp hbytes).1
    exact Emission.text_stopped_iff.mp (Emission.append_stopped_eq_none.mp hpayload).2
  · cases hs

theorem reads_read (s : Status) : read.Reads s.emit s := by
  refine .of_complete fun hs => ?_
  have hcount := countable_of_emit hs
  rw [emit_of_countable hcount]
  exact reads_of_block hcount (Command.reads_read (s.block []))

theorem emit_bytes_ne_nil (s : Status) (hs : s.emit.stopped = none) : s.emit.bytes ≠ [] := by
  have hblock := emit_of_countable (countable_of_emit hs)
  rw [hblock] at hs ⊢
  exact Command.emit_bytes_ne_nil _ hs

end Status

/-! ### Containers -/

namespace Container

theorem reads_bare {s : Status} (h : s.isOk = false ∨ Code.isStatusOnly s.command = true) :
    (readReply s).Reads {} .bare := by
  have hbare : (!s.isOk || Code.isStatusOnly s.command) = true := by
    rcases h with h | h <;> simp [h]
  unfold readReply
  rw [if_pos hbare]
  exact .pure _

theorem reads_single {s : Status} {e : Emission} {answer : Command} (hok : s.isOk = true)
    (hmore : Code.isStatusOnly s.command = false) (hstep : s.command ≠ Code.simulationStep)
    (he : Command.read.Reads e answer) : (readReply s).Reads e (.single answer) := by
  unfold readReply
  rw [if_neg (by simp [hok, hmore]), if_neg hstep]
  exact he.map _

theorem reads_several {ι : Type} {s : Status} {write : ι → Emission} {answer : ι → Command}
    {items : List ι} (hok : s.isOk = true) (hmore : Code.isStatusOnly s.command = false)
    (hstep : s.command = Code.simulationStep)
    (h : ∀ i ∈ items, Command.read.Reads (write i) (answer i)) :
    (readReply s).Reads (.count items.length ++ .concat (items.map write))
      (.several (items.map answer)) := by
  unfold readReply
  rw [if_neg (by simp [hok, hmore]), if_pos hstep]
  exact (reads_count items.length).bind ((Reads.timesEach h).map _)

/-- Writes what follows the status. -/
def emitReply (c : Container) : Emission :=
  match c.reply with
  | .bare => {}
  | .single answer => answer.emit
  | .several answers => .count answers.length ++ .concat (answers.map Command.emit)

theorem emit_eq (c : Container) : c.emit = c.status.emit ++ c.emitReply := rfl

theorem reads_reply {c : Container} (h : c.Shaped) :
    (readReply c.status).Reads c.emitReply c.reply := by
  obtain ⟨status, reply⟩ := c
  cases reply with
  | bare => exact reads_bare h
  | single answer =>
    obtain ⟨hok, hmore, hstep⟩ := h
    exact reads_single hok hmore hstep (Command.reads_read answer)
  | several answers =>
    obtain ⟨hok, hmore, hstep⟩ := h
    have hread := reads_several hok hmore hstep fun (a : Command) (_ : a ∈ answers) =>
      Command.reads_read a
    rwa [List.map_id'] at hread

theorem reads_read {c : Container} (h : c.Shaped) : read.Reads c.emit c :=
  (Status.reads_read c.status).bind ((reads_reply h).bind_pure rfl)

theorem emit_bytes_ne_nil (c : Container) (hs : c.emit.stopped = none) : c.emit.bytes ≠ [] := by
  rw [emit_eq] at hs ⊢
  obtain ⟨hstatus, -⟩ := Emission.append_stopped_eq_none.mp hs
  rw [Emission.append_bytes _ hstatus]
  exact List.append_ne_nil_of_left_ne_nil (Status.emit_bytes_ne_nil c.status hstatus) _

namespace Spelling

theorem reads_reply (s : Spelling) :
    (readReply s.status.status).Reads (.raw s.reply.bytes) s.reply.reply := by
  obtain ⟨status, reply, hshaped⟩ := s
  cases reply with
  | bare => exact reads_bare hshaped
  | single answer =>
    obtain ⟨hok, hmore, hstep⟩ := hshaped
    exact reads_single hok hmore hstep answer.reads
  | several answers hcount =>
    obtain ⟨hok, hmore, hstep⟩ := hshaped
    have hread := reads_several hok hmore hstep fun (a : Command.Spelling) (_ : a ∈ answers) =>
      a.reads
    rwa [Emission.count_of_lt hcount, Emission.concat_raw] at hread

theorem reads (s : Spelling) : read.Reads (.raw s.bytes) s.container := by
  show read.Reads (.raw s.status.bytes ++ .raw s.reply.bytes) s.container
  exact s.status.reads.bind (s.reads_reply.bind_pure rfl)

end Spelling

end Container

/-! ### Frames -/

namespace Frame

variable {α ι : Type} {item : Reader α}

theorem close_eq_ok_iff {body : Emission} {frame : Bytes} :
    close body = .ok frame ↔ body.stopped = none ∧ 4 + body.bytes.length < UInt32.size ∧
      frame = Word.bytes 4 (4 + body.bytes.length) ++ body.bytes := by
  unfold close
  rcases hs : body.stopped with _ | e
  · have hresult : body.result = .ok body.bytes := Emission.result_eq_ok_iff.mpr ⟨hs, rfl⟩
    rw [hresult]
    show (if 4 + body.bytes.length < UInt32.size then
        (Pure.pure (Word.bytes 4 (4 + body.bytes.length) ++ body.bytes) : Except FrameError Bytes)
      else throw (.frameTooLarge (4 + body.bytes.length))) = .ok frame ↔ _
    split
    · next hlt => simp [hlt, pure, Except.pure, eq_comm]
    · next hlt => simp [hlt, throw, throwThe, MonadExceptOf.throw]
  · have hresult : body.result = .error e := by
      unfold Emission.result
      rw [hs]
    rw [hresult]
    simp [bind, Except.bind]

/-- A frame spells pieces exactly if it is closed around their bytes. -/
theorem spells_iff_close {bytes : ι → Bytes} {pieces : List ι} {frame : Bytes} :
    Spells bytes pieces frame ↔ close (.raw (pieces.flatMap bytes)) = .ok frame := by
  rw [close_eq_ok_iff]
  generalize hbody : pieces.flatMap bytes = body
  show _ ↔ none = none ∧ 4 + body.length < UInt32.size ∧ frame = Word.bytes 4 (4 + body.length) ++ body
  constructor
  · rintro ⟨hfits, hframe⟩
    rw [hbody] at hframe
    have hlen : frame.length = 4 + body.length := by
      simpa [Word.length_bytes] using congrArg List.length hframe
    refine ⟨rfl, ?_, ?_⟩
    · rwa [hlen] at hfits
    · rwa [hlen] at hframe
  · rintro ⟨-, hlt, rfl⟩
    have hlen : (Word.bytes 4 (4 + body.length) ++ body).length = 4 + body.length := by
      simp [Word.length_bytes]
    refine ⟨?_, ?_⟩
    · rwa [← hlen] at hlt
    · rw [hbody]
      exact congrArg (fun n => Word.bytes 4 n ++ body) hlen.symm

/-- A frame that was closed around items spells them as they are written. -/
theorem spells_of_close {write : ι → Emission} {items : List ι} {frame : Bytes}
    (h : close (.concat (items.map write)) = .ok frame) :
    Spells (fun i => (write i).bytes) items frame := by
  have hs := (close_eq_ok_iff.mp h).1
  have hitems : items.map write = items.map fun i => .raw (write i).bytes := by
    apply List.map_congr_left
    intro i hi
    exact Emission.eq_raw (Emission.stopped_of_concat hs (List.mem_map_of_mem hi))
  rwa [hitems, Emission.concat_raw, ← spells_iff_close] at h

/-- A frame declares the length that it has. -/
theorem value_take_of_close {body : Emission} {frame : Bytes} (h : close body = .ok frame) :
    Word.value (frame.take 4) = frame.length ∧ 4 ≤ frame.length := by
  obtain ⟨-, hlt, rfl⟩ := close_eq_ok_iff.mp h
  have hlen := Word.length_bytes 4 (4 + body.bytes.length)
  rw [List.take_left' hlen, Word.value_bytes hlt, List.length_append, hlen]
  exact ⟨rfl, Nat.le_add_right _ _⟩

/-- A frame is read by opening it and reading on to the end. -/
theorem decode_eq_ok_iff_reads {frame : Bytes} {items : List α} :
    decode item frame = .ok items ↔ ∃ c c', openLength frame.length ⟨frame, 0⟩ = .ok () c ∧
      untilEnd item c = .ok items c' := by
  have hparts : ∀ c', (openLength frame.length >>= fun _ => untilEnd item) ⟨frame, 0⟩ = .ok items c' ↔
      ∃ c, openLength frame.length ⟨frame, 0⟩ = .ok () c ∧ untilEnd item c = .ok items c' := by
    intro c'
    rw [EStateM.bind_eq_ok_iff]
    exact ⟨fun ⟨_, c, h⟩ => ⟨c, h⟩, fun ⟨c, h⟩ => ⟨(), c, h⟩⟩
  unfold decode
  dsimp only
  constructor
  · intro h
    split at h
    · next c' hread =>
      cases h
      obtain ⟨c, hc⟩ := (hparts c').mp hread
      exact ⟨c, c', hc⟩
    · cases h
  · rintro ⟨c, c', hc⟩
    rw [(hparts c').mpr ⟨c, hc⟩]

/-- The pieces that a frame spells are read from it. -/
theorem decode_of_spells {bytes : ι → Bytes} {value : ι → α} {pieces : List ι} {frame : Bytes}
    (h : Spells bytes pieces frame)
    (hreads : ∀ i ∈ pieces, item.Reads (.raw (bytes i)) (value i))
    (hne : ∀ i ∈ pieces, bytes i ≠ []) : decode item frame = .ok (pieces.map value) := by
  have hopen : (openLength frame.length).Reads (.word 4 frame.length) () :=
    (@reads_word 4 _ h.fits).bind_pure (if_pos rfl)
  have hlength := hopen rfl (pieces.flatMap bytes) 0
  have hend := untilEnd_concat hreads hne (by rw [Emission.concat_raw]; rfl) (0 + 4)
  rw [Emission.concat_raw] at hend
  apply decode_eq_ok_iff_reads.mpr
  refine ⟨_, _, ?_, hend⟩
  refine Eq.trans (congrArg _ ?_) hlength
  exact congrArg (Cursor.mk · 0) h.frame_eq

/-- The items of a frame are read back from it. -/
theorem decode_of_close {write : α → Emission} {items : List α} {frame : Bytes}
    (hclose : close (.concat (items.map write)) = .ok frame)
    (h : ∀ a ∈ items, item.Reads (write a) a)
    (hne : ∀ a ∈ items, (write a).stopped = none → (write a).bytes ≠ []) :
    decode item frame = .ok items := by
  have hs : ∀ a ∈ items, (write a).stopped = none := fun a ha =>
    Emission.stopped_of_concat (close_eq_ok_iff.mp hclose).1 (List.mem_map_of_mem ha)
  have hreads : ∀ a ∈ items, item.Reads (.raw (write a).bytes) a := by
    intro a ha
    rw [← Emission.eq_raw (hs a ha)]
    exact h a ha
  have hdecode := decode_of_spells (spells_of_close hclose) hreads fun a ha => hne a ha (hs a ha)
  rwa [List.map_id'] at hdecode

end Frame

/-- The commands of a request are read back from its frame. -/
theorem Request.decode_encode {commands : List Command} {frame : Bytes}
    (h : encode commands = .ok frame) : decode frame = .ok commands :=
  Frame.decode_of_close h (fun c _ => Command.reads_read c) fun c _ => Command.emit_bytes_ne_nil c

/-- The containers of a response are read back from its frame, if they have the shapes that their
statuses announce. -/
theorem Response.decode_encode {containers : List Container} {frame : Bytes}
    (h : encode containers = .ok frame) (hshaped : ∀ c ∈ containers, c.Shaped) :
    decode frame = .ok containers :=
  Frame.decode_of_close h (fun c hc => Container.reads_read (hshaped c hc))
    fun c _ => Container.emit_bytes_ne_nil c

end TrafficControl
