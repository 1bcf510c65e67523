import TrafficControl.Proofs.Protocol.Encodability
import TrafficControl.Proofs.Protocol.MessageGrammar
import TrafficControl.Proofs.Protocol.Unrolling

/-!
# What is read takes up bytes

Nothing that is read is larger than the bytes it was read from. Every part of a value takes the bytes that
it is written in, so the values, list elements, points and texts of a value are paid for by the bytes
that were taken; the same holds for the commands and containers of a message. A count that is larger
than the bytes left is never believed, wherever in the tree of a value or in a response it stands.

* `Value.read_pays`, `Command.read_pays`, `Request.decode_pays`, `Response.decode_pays`: the sizes.
* `Value.read_of_count_gt`, `Response.decode_of_count_gt`: the counts.
* `decoding_pays_for_everything`: all of it, and that decoding comes to an end.
-/

namespace TrafficControl

-- Sums of natural numbers start from the zero of the core library, whatever else is in scope.
attribute [local instance (high)] Zero.ofOfNat0

/-! ### Values -/

/-- The bytes of texts, without their counts. -/
def textBytes (texts : List String) : Nat := (texts.map fun s => (Utf8.bytes s).length).sum

theorem sum_textWidth (texts : List String) :
    (texts.map textWidth).sum = 4 * texts.length + textBytes texts := by
  induction texts with
  | nil => rfl
  | cons s texts ih =>
    rw [List.map_cons, List.sum_cons, ih, textBytes, textBytes, List.map_cons, List.sum_cons, textWidth,
      List.length_cons]
    omega

theorem textBytes_append (texts texts' : List String) :
    textBytes (texts ++ texts') = textBytes texts + textBytes texts' := by
  rw [textBytes, List.map_append, List.sum_append_nat]
  rfl

namespace Value

/-- The texts in a value, those of its elements left out. -/
def texts : Value → List String
  | .text s => [s]
  | .textList items => items
  | .roadMap p => [p.edge]
  | _ => []

/-- The number of texts in a list of texts. -/
def listed : Value → Nat
  | .textList items => items.length
  | _ => 0

/-- The number of points of a polygon. -/
def pointCount : Value → Nat
  | .polygon points => points.length
  | _ => 0

theorem own_le_ownWidth (v : Value) :
    2 + 4 * v.listed + 16 * v.pointCount + textBytes v.texts ≤ v.ownWidth := by
  cases v with
  | text s =>
    show 2 + 0 + 0 + ((Utf8.bytes s).length + 0) ≤ 1 + (4 + (Utf8.bytes s).length)
    omega
  | textList items =>
    show 2 + 4 * items.length + 0 + textBytes items ≤ 1 + (4 + (items.map textWidth).sum)
    rw [sum_textWidth]
    omega
  | roadMap p =>
    show 2 + 0 + 0 + ((Utf8.bytes p.edge).length + 0) ≤ 1 + (4 + (Utf8.bytes p.edge).length + 8 + 1)
    omega
  | polygon points =>
    show 2 + 0 + 16 * points.length + 0 ≤ 1 + (1 + 16 * points.length)
    omega
  | _ => simp [listed, pointCount, texts, textBytes, ownWidth]

/-- Values take the bytes of all they are made of. -/
theorem own_le_sum_ownWidth (vs : List Value) :
    2 * vs.length + 4 * (vs.map listed).sum + 16 * (vs.map pointCount).sum +
      textBytes (vs.flatMap texts) ≤ (vs.map ownWidth).sum := by
  induction vs with
  | nil => exact Nat.le_refl _
  | cons v vs ih =>
    have hown := own_le_ownWidth v
    simp only [List.length_cons, List.map_cons, List.sum_cons, List.flatMap_cons, textBytes_append]
    omega

/-- A value that was read is paid for by the bytes that were taken: two for each of its values, four more
for each text in a list, sixteen for each point, and those of its texts. -/
theorem read_pays {c c' : Cursor} {v : Value} (h : read c = .ok v c') :
    ∃ n, c.remaining = n + c'.remaining ∧ c'.pos = c.pos + n ∧
      2 * v.nodes.length + 4 * (v.nodes.map listed).sum + 16 * (v.nodes.map pointCount).sum +
        textBytes (v.nodes.flatMap texts) ≤ n := by
  have hpass := takes_read h
  refine ⟨v.emit.bytes.length, hpass.remaining_eq, hpass.pos_eq, ?_⟩
  rw [v.bears_emit.length_eq hpass.complete]
  exact own_le_sum_ownWidth v.nodes

/-! ### Counts in values -/

/-- Reading a value comes to the parts of a value of some kind: those of its own, or, if it is a compound
and some elements have been read, those that the next element comes to. -/
inductive ComesTo : Cursor → ValueType → Cursor → Prop
  | parts {c c' : Cursor} {t : ValueType} (htag : Reader.valueType c = .ok t c') : ComesTo c t c'
  | element {c c₁ c₂ c₃ c' : Cursor} {n m : Nat} {items : List Value} {t : ValueType}
      (htag : Reader.valueType c = .ok .compound c₁) (hcount : Reader.count c₁ = .ok n c₂) (hlt : m < n)
      (hitems : Reader.times read m c₂ = .ok items c₃) (h : ComesTo c₃ t c') : ComesTo c t c'

/-- A list of texts or a compound of more elements than bytes are left cannot be read, and neither can the
value that it is part of. -/
theorem read_of_count_gt {c c₁ c₂ : Cursor} {t : ValueType} {n : Nat} (h : ComesTo c t c₁)
    (ht : t = .textList ∨ t = .compound) (hcount : Reader.count c₁ = .ok n c₂) (hgt : c₂.remaining < n) :
    ∃ e c', read c = .error e c' := by
  induction h with
  | parts htag =>
    rw [read_eq, readLevel, EStateM.bind_of_ok htag]
    rcases ht with rfl | rfl
    · obtain ⟨e, c', herror⟩ := Reader.times_of_remaining_lt Reader.text_shrinks c₂
      refine ⟨e, c', EStateM.map_eq_error_iff.mpr ?_⟩
      rw [Reader.textList, EStateM.bind_of_ok hcount]
      exact herror n hgt
    · obtain ⟨e, c', herror⟩ := Reader.times_of_remaining_lt read_shrinks c₂
      refine ⟨e, c', ?_⟩
      rw [readParts, EStateM.bind_of_ok hcount]
      exact EStateM.map_eq_error_iff.mpr (herror n hgt)
  | element htag hcount' hlt hitems _ ih =>
    obtain ⟨e, c', herror⟩ := ih ht hcount
    refine ⟨e, c', ?_⟩
    rw [read_eq, readLevel, EStateM.bind_of_ok htag, readParts, EStateM.bind_of_ok hcount']
    exact EStateM.map_eq_error_iff.mpr (Reader.times_of_element_error hlt hitems herror)

end Value

/-! ### Messages -/

/-- The bytes that commands carry. -/
def payloadBytes (commands : List Command) : Nat := (commands.map fun c => c.payload.length).sum

theorem payloadBytes_append (commands commands' : List Command) :
    payloadBytes (commands ++ commands') = payloadBytes commands + payloadBytes commands' := by
  rw [payloadBytes, List.map_append, List.sum_append_nat]
  rfl

theorem LengthForm.width_pos (form : LengthForm) : 1 ≤ form.width := by
  cases form <;> decide

namespace Command.Spelling

theorem pays (s : Spelling) : 2 + s.command.payload.length ≤ s.bytes.length := by
  have hwidth := s.form.width_pos
  rw [length_bytes, size]
  omega

theorem flatMap_pays (ss : List Spelling) :
    2 * ss.length + payloadBytes (ss.map command) ≤ (ss.flatMap bytes).length := by
  induction ss with
  | nil => exact Nat.le_refl _
  | cons s ss ih =>
    have hs := s.pays
    simp only [payloadBytes, List.length_cons, List.map_cons, List.sum_cons, List.flatMap_cons,
      List.length_append] at ih ⊢
    omega

end Command.Spelling

/-- A command that was read is paid for by the bytes that were taken. -/
theorem Command.read_pays {c c' : Cursor} {command : Command} (h : read c = .ok command c') :
    2 + command.payload.length + c'.remaining ≤ c.remaining := by
  obtain ⟨s, rfl, hpass⟩ := spelled_read h
  rw [hpass.remaining_eq]
  exact Nat.add_le_add_right s.pays _

/-- The commands that follow a status. -/
def Reply.answers : Reply → List Command
  | .bare => []
  | .single answer => [answer]
  | .several answers => answers

/-- The answers in containers. -/
def answersOf (containers : List Container) : List Command := containers.flatMap fun c => c.reply.answers

namespace Container.Spelling

theorem reply_pays (r : Reply.Spelling) :
    2 * r.reply.answers.length + payloadBytes r.reply.answers ≤ r.bytes.length := by
  cases r with
  | bare => exact Nat.le_refl _
  | single answer =>
    have hpays := Command.Spelling.flatMap_pays [answer]
    rw [List.flatMap_singleton] at hpays
    exact hpays
  | several answers countable =>
    have hpays := Command.Spelling.flatMap_pays answers
    simp only [Reply.Spelling.reply, Reply.answers, Reply.Spelling.bytes, List.length_map,
      List.length_append] at hpays ⊢
    omega

theorem status_pays (s : Status.Spelling) :
    7 + (Utf8.bytes s.status.description).length ≤ s.bytes.length := by
  have hwidth := s.form.width_pos
  have hlength : s.bytes.length = s.form.width + 1 + (s.status.block s.further).payload.length :=
    s.command.length_bytes
  rw [hlength, Status.block]
  simp only [List.length_cons, List.length_append, Word.length_bytes]
  omega

/-- Containers take the bytes of all they are made of. -/
theorem flatMap_pays (ss : List Spelling) :
    7 * ss.length + 2 * (answersOf (ss.map container)).length +
      textBytes (ss.map fun s => s.container.status.description) +
      payloadBytes (answersOf (ss.map container)) ≤ (ss.flatMap bytes).length := by
  induction ss with
  | nil => exact Nat.le_refl _
  | cons s ss ih =>
    have hstatus := status_pays s.status
    have hreply := reply_pays s.reply
    have hanswers : answersOf ((s :: ss).map container) =
        s.reply.reply.answers ++ answersOf (ss.map container) := rfl
    have hdescription : textBytes ((s :: ss).map fun s => s.container.status.description) =
        (Utf8.bytes s.status.status.description).length +
          textBytes (ss.map fun s => s.container.status.description) := rfl
    rw [hanswers, hdescription, payloadBytes_append, List.length_append, List.length_cons,
      List.flatMap_cons, List.length_append, bytes, List.length_append]
    omega

end Container.Spelling

/-! ### Frames -/

theorem Frame.Spells.length_eq {ι : Type} {bytes : ι → Bytes} {pieces : List ι} {frame : Bytes}
    (h : Spells bytes pieces frame) : frame.length = 4 + (pieces.flatMap bytes).length := by
  have hlength := congrArg List.length h.frame_eq
  rwa [List.length_append, Word.length_bytes] at hlength

/-- The commands of a request are paid for by the bytes of its frame: two for each and those of its
payload. -/
theorem Request.decode_pays {frame : Bytes} {commands : List Command}
    (h : decode frame = .ok commands) :
    4 + 2 * commands.length + payloadBytes commands ≤ frame.length := by
  obtain ⟨s, hs, rfl⟩ := decode_eq_ok_iff.mp h
  have hpays := Command.Spelling.flatMap_pays s
  have hlength := Frame.Spells.length_eq hs
  rw [List.length_map]
  omega

namespace Response

/-- The containers of a response and the answers in them are paid for by the bytes of its frame: seven for
each container, two for each answer, and those of the descriptions and payloads. -/
theorem decode_pays {frame : Bytes} {containers : List Container} (h : decode frame = .ok containers) :
    4 + 7 * containers.length + 2 * (answersOf containers).length +
      textBytes (containers.map fun c => c.status.description) + payloadBytes (answersOf containers) ≤
        frame.length := by
  obtain ⟨s, hs, rfl⟩ := decode_eq_ok_iff.mp h
  have hpays := Container.Spelling.flatMap_pays s
  have hlength := Frame.Spells.length_eq hs
  have hdescriptions : (s.map Container.Spelling.container).map (fun c => c.status.description) =
      s.map fun s => s.container.status.description := List.map_map
  rw [List.length_map, hdescriptions]
  omega

/-- A step that announces more answers than bytes are left cannot be read, and neither can the response
that it is part of. -/
theorem decode_of_count_gt {frame : Bytes} {containers : List Container} {c c₁ c₂ : Cursor} {s : Status}
    {m n : Nat} (hbefore : Reader.times Container.read m ⟨frame.drop 4, 4⟩ = .ok containers c)
    (hstatus : Status.read c = .ok s c₁) (hok : s.isOk = true)
    (hstep : s.command = Code.simulationStep) (hcount : Reader.count c₁ = .ok n c₂)
    (hgt : c₂.remaining < n) : ∃ e, decode frame = .error e := by
  obtain ⟨e, c', herror⟩ := Reader.times_of_remaining_lt Command.read_shrinks c₂
  have hcontainer : Container.read c = .error e c' := by
    rw [Container.read, EStateM.bind_of_ok hstatus]
    refine EStateM.bind_of_error ?_
    have hreturns : Code.isStatusOnly s.command = false := by
      rw [hstep]
      decide
    rw [Container.readReply, hok, hreturns, if_neg (by decide), if_pos hstep,
      EStateM.bind_of_ok hcount]
    exact EStateM.map_eq_error_iff.mpr (herror n hgt)
  have hleft : c.rest ≠ [] := by
    intro hnil
    have hless := Status.read_shrinks hstatus
    rw [Cursor.remaining, Cursor.remaining, hnil] at hless
    exact absurd hless (Nat.not_lt_zero _)
  have hall := Reader.untilEnd_of_element_error Container.read_shrinks hbefore hleft hcontainer
  unfold decode Frame.decode
  dsimp only
  rcases hopen : Frame.openLength frame.length ⟨frame, 0⟩ with ⟨u, c₃⟩ | ⟨e', c₃⟩
  · rw [Frame.openLength_eq_ok hopen] at hopen
    rw [EStateM.bind_of_ok hopen, hall]
    exact ⟨e, rfl⟩
  · rw [EStateM.bind_of_error hopen]
    exact ⟨e', rfl⟩

end Response

/-! ### Decoding as a whole -/

/-- Decoding ends with a result, whatever the bytes declare: values are nested no more deeply than there
are bytes, no counted list makes more attempts than there are bytes and one, and no loop over a frame more
rounds. What was decoded is no larger than the bytes it was decoded from. A count of texts, elements or
answers that is larger than the bytes behind it is an error, wherever it stands. -/
theorem decoding_pays_for_everything :
    ((∀ inner c, Value.read c = Nat.repeat Value.readLevel (c.remaining + 1) inner c) ∧
      (∀ n c, Reader.times Reader.text n c = Reader.times Reader.text (min n (c.remaining + 1)) c) ∧
      (∀ n c, Reader.times Value.read n c = Reader.times Value.read (min n (c.remaining + 1)) c) ∧
      (∀ n c, Reader.times Command.read n c = Reader.times Command.read (min n (c.remaining + 1)) c) ∧
      (∀ again frame, Request.decode frame = Frame.decodeBy
        (Nat.repeat (Reader.turn Command.read) (frame.length + 1) again []) frame) ∧
      ∀ again frame, Response.decode frame = Frame.decodeBy
        (Nat.repeat (Reader.turn Container.read) (frame.length + 1) again []) frame) ∧
    ((∀ c c' v, Value.read c = .ok v c' → ∃ n, c.remaining = n + c'.remaining ∧ c'.pos = c.pos + n ∧
        2 * v.nodes.length + 4 * (v.nodes.map Value.listed).sum +
          16 * (v.nodes.map Value.pointCount).sum + textBytes (v.nodes.flatMap Value.texts) ≤ n) ∧
      (∀ c c' command, Command.read c = .ok command c' →
        2 + command.payload.length + c'.remaining ≤ c.remaining) ∧
      (∀ frame commands, Request.decode frame = .ok commands →
        4 + 2 * commands.length + payloadBytes commands ≤ frame.length) ∧
      ∀ frame containers, Response.decode frame = .ok containers →
        4 + 7 * containers.length + 2 * (answersOf containers).length +
          textBytes (containers.map fun c => c.status.description) +
          payloadBytes (answersOf containers) ≤ frame.length) ∧
    (∀ c t c₁ n c₂, Value.ComesTo c t c₁ → t = .textList ∨ t = .compound →
      Reader.count c₁ = .ok n c₂ → c₂.remaining < n → ∃ e c', Value.read c = .error e c') ∧
    ∀ frame m before c s c₁ n c₂, Reader.times Container.read m ⟨frame.drop 4, 4⟩ = .ok before c →
      Status.read c = .ok s c₁ → s.isOk = true → s.command = Code.simulationStep →
      Reader.count c₁ = .ok n c₂ → c₂.remaining < n → ∃ e, Response.decode frame = .error e := by
  refine ⟨⟨?_, ?_, ?_, ?_, ?_, ?_⟩, ⟨?_, ?_, ?_, ?_⟩, ?_, ?_⟩
  · exact Value.read_eq_levels
  · exact Reader.times_eq_min Reader.text_shrinks
  · exact Reader.times_eq_min Value.read_shrinks
  · exact Reader.times_eq_min Command.read_shrinks
  · exact Frame.decode_eq_rounds Command.read_shrinks
  · exact Frame.decode_eq_rounds Container.read_shrinks
  · exact fun _ _ _ h => Value.read_pays h
  · exact fun _ _ _ h => Command.read_pays h
  · exact fun _ _ h => Request.decode_pays h
  · exact fun _ _ h => Response.decode_pays h
  · exact fun _ _ _ _ _ h ht hcount hgt => Value.read_of_count_gt h ht hcount hgt
  · exact fun _ _ _ _ _ _ _ _ hbefore hstatus hok hstep hcount hgt =>
      Response.decode_of_count_gt hbefore hstatus hok hstep hcount hgt

/-- A compound with one element and then one that is a compound of 2147483647. -/
def boast : Bytes := [0x0f, 0, 0, 0, 2, 0x07, 1, 0x0f, 0x7f, 0xff, 0xff, 0xff, 0x07, 2]

/-- A response with a step that was accepted and announces nine answers, of which there is none. -/
def emptyPromise : Bytes := [0, 0, 0, 15, 7, 0x02, 0, 0, 0, 0, 0, 0, 0, 0, 9]

theorem boasts_refused :
    (∃ e c, Value.read ⟨boast, 0⟩ = .error e c) ∧ (∃ e, Response.decode emptyPromise = .error e) ∧
    ∃ n, Value.itinerary.emit.bytes.length = n + 0 ∧ 2 * 6 + 4 * 2 + 16 * 1 + 5 ≤ n := by
  obtain ⟨-, ⟨hvalue, -⟩, hcounts, hanswers⟩ := decoding_pays_for_everything
  refine ⟨?_, ?_, ?_⟩
  · have hcomes : Value.ComesTo ⟨boast, 0⟩ .compound ⟨boast.drop 8, 8⟩ :=
      .element rfl rfl Nat.one_lt_two rfl (.parts rfl)
    exact hcounts _ _ _ 2147483647 ⟨boast.drop 12, 12⟩ hcomes (.inr rfl) rfl (by decide)
  · exact hanswers emptyPromise 0 [] ⟨emptyPromise.drop 4, 4⟩ ⟨Code.simulationStep, 0, ""⟩
      ⟨emptyPromise.drop 11, 11⟩ 9 ⟨[], 15⟩ rfl rfl rfl rfl rfl (by decide)
  · obtain ⟨n, hn, -, hpays⟩ := hvalue ⟨Value.itinerary.emit.bytes, 0⟩ ⟨[], 56⟩ Value.itinerary rfl
    exact ⟨n, hn, hpays⟩

end TrafficControl
