import TrafficControl.Proofs.Bytes.Takes
import TrafficControl.Proofs.Protocol.MessageReads

/-!
# What was read as a message was spelled

A reader of commands, statuses or containers that succeeds has passed over the bytes of a spelling of
its result, and a frame that is decoded spells what it is decoded to. Together with the statements
that spellings are read (`Command.Spelling.reads`, ..., `Frame.decode_of_spells`) this says exactly
which byte strings are accepted, and as what.
-/

namespace TrafficControl

open Reader

/-! ### Commands -/

namespace Command

/-- A length that was read counts itself and leaves at least the byte that says what the command
is. -/
theorem passes_readLength {c c' : Cursor} {n : Nat} (h : readLength c = .ok n c') :
    ∃ form : LengthForm, 1 ≤ n ∧ form.width + n < form.bound ∧
      c.Passes (.raw (form.field (form.width + n))) c' := by
  obtain ⟨short, c₁, hshort, h⟩ := EStateM.bind_eq_ok_iff.mp h
  split at h
  · next hzero =>
    obtain ⟨total, c₂, htotal, h⟩ := EStateM.bind_eq_ok_iff.mp h
    split at h
    · cases h
    · next hmin =>
      cases h
      have hsum : LengthForm.long.width + (total - 5) = total := by
        simp only [LengthForm.width]
        omega
      refine ⟨.long, by omega, ?_, ?_⟩
      · rw [hsum]
        exact lt_of_word htotal
      · rw [hsum]
        rw [hzero] at hshort
        exact (takes_byte hshort).append (takes_word 4 htotal)
  · split at h
    · cases h
    · next hmin =>
      cases h
      have hsum : LengthForm.short.width + (short.toNat - 1) = short.toNat := by
        simp only [LengthForm.width]
        omega
      refine ⟨.short, by omega, ?_, ?_⟩
      · rw [hsum]
        exact short.toNat_lt
      · rw [hsum, LengthForm.field, UInt8.ofNat_toNat]
        exact takes_byte hshort

theorem spelled_read : read.SpelledBy Spelling.command fun s => .raw s.bytes := by
  intro c c' cmd h
  obtain ⟨n, c₁, hn, h⟩ := EStateM.bind_eq_ok_iff.mp h
  obtain ⟨body, c₂, hbody, h⟩ := EStateM.bind_eq_ok_iff.mp h
  cases h
  obtain ⟨form, hpos, hfits, hpass⟩ := passes_readLength hn
  have hlen := length_of_take hbody
  cases body with
  | nil =>
    rw [← hlen] at hpos
    cases hpos
  | cons id payload =>
    have hsum : form.width + n = form.width + 1 + payload.length := by
      rw [← hlen, List.length_cons]
      omega
    rw [hsum] at hfits hpass
    exact ⟨⟨form, ⟨id, payload⟩, hfits⟩, rfl, hpass.append (takes_take n hbody)⟩

end Command

/-! ### Statuses -/

namespace Status

/-- What the payload of a status says determines the payload, up to what follows the description. -/
theorem block_of_fields {c : Command} {result : UInt8} {description : String} {c' : Cursor}
    (h : readFields c.cursor = .ok (result, description) c') :
    (Utf8.bytes description).length < Emission.countBound ∧
      c = (Status.mk c.id result description).block c'.rest := by
  obtain ⟨r, c₁, hresult, h⟩ := EStateM.bind_eq_ok_iff.mp h
  obtain ⟨d, c₂, hdescription, h⟩ := EStateM.bind_eq_ok_iff.mp h
  cases h
  have hcount := Emission.text_stopped_iff.mp (takes_text hdescription).complete
  have hpass := (takes_byte hresult).append (takes_text hdescription)
  rw [Emission.text_of_lt hcount] at hpass
  refine ⟨hcount, ?_⟩
  obtain ⟨id, payload⟩ := c
  exact congrArg (Command.mk id) hpass.rest_eq

theorem spelled_read : read.SpelledBy Spelling.status fun s => .raw s.bytes := by
  intro c c' status h
  obtain ⟨cmd, c₁, hcmd, h⟩ := EStateM.bind_eq_ok_iff.mp h
  rcases hfields : readFields cmd.cursor with ⟨⟨result, description⟩, further⟩ | ⟨e, further⟩
  · obtain ⟨hcount, hblock⟩ := block_of_fields hfields
    unfold readFields at hfields
    rw [hfields] at h
    cases h
    obtain ⟨s, rfl, hpass⟩ := Command.spelled_read hcmd
    refine ⟨.ofCommand s _ further.rest hcount hblock, rfl, ?_⟩
    simpa using hpass
  · unfold readFields at hfields
    rw [hfields] at h
    cases h

end Status

/-! ### Containers -/

namespace Container

theorem spelled_readReply {s : Status} {c c' : Cursor} {reply : Reply}
    (h : readReply s c = .ok reply c') :
    ∃ r : Reply.Spelling, r.reply = reply ∧ Shaped ⟨s, r.reply⟩ ∧ c.Passes (.raw r.bytes) c' := by
  unfold readReply at h
  split at h
  · next hbare =>
    cases h
    rw [Bool.or_eq_true, Bool.not_eq_true'] at hbare
    exact ⟨.bare, rfl, hbare, .nothing _⟩
  · next hmore =>
    simp only [Bool.or_eq_true, Bool.not_eq_true', not_or, Bool.not_eq_false, Bool.not_eq_true] at hmore
    split at h
    · next hstep =>
      obtain ⟨n, c₁, hn, h⟩ := EStateM.bind_eq_ok_iff.mp h
      obtain ⟨answers, hanswers, rfl⟩ := EStateM.map_eq_ok_iff.mp h
      obtain ⟨spellings, rfl, rfl, hpass⟩ := Command.spelled_read.times hanswers
      have hcount := Emission.count_stopped_iff.mp (takes_count hn).complete
      refine ⟨.several spellings hcount, rfl, ⟨hmore.1, hmore.2, hstep⟩, ?_⟩
      have hpass' := (takes_count hn).append hpass
      rwa [Emission.count_of_lt hcount, Emission.concat_raw] at hpass'
    · next hstep =>
      obtain ⟨answer, hanswer, rfl⟩ := EStateM.map_eq_ok_iff.mp h
      obtain ⟨s, rfl, hpass⟩ := Command.spelled_read hanswer
      exact ⟨.single s, rfl, ⟨hmore.1, hmore.2, hstep⟩, hpass⟩

theorem spelled_read : read.SpelledBy Spelling.container fun s => .raw s.bytes := by
  intro c c' container h
  obtain ⟨status, c₁, hstatus, h⟩ := EStateM.bind_eq_ok_iff.mp h
  obtain ⟨reply, c₂, hreply, h⟩ := EStateM.bind_eq_ok_iff.mp h
  cases h
  obtain ⟨s, rfl, hpass⟩ := Status.spelled_read hstatus
  obtain ⟨r, rfl, hshaped, hpass'⟩ := spelled_readReply hreply
  exact ⟨⟨s, r, hshaped⟩, rfl, hpass.append hpass'⟩

end Container

/-! ### Frames -/

/-- A frame that is decoded spells what it is decoded to. -/
theorem Frame.spells_of_decode {α ι : Type} {item : Reader α} {value : ι → α} {bytes : ι → Bytes}
    (hitem : item.SpelledBy value fun i => .raw (bytes i)) (hne : ∀ i, bytes i ≠ [])
    {frame : Bytes} {items : List α} (h : decode item frame = .ok items) :
    ∃ pieces : List ι, Spells bytes pieces frame ∧ pieces.map value = items := by
  obtain ⟨c, c', hopen, hitems⟩ := decode_eq_ok_iff_reads.mp h
  obtain ⟨declared, c₁, hdeclared, hopen⟩ := EStateM.bind_eq_ok_iff.mp hopen
  split at hopen
  · next heq =>
    cases hopen
    subst heq
    obtain ⟨pieces, rfl, hend, hpass⟩ := hitem.untilEnd hne hitems
    have hall := (takes_word 4 hdeclared).append hpass
    rw [Emission.concat_raw] at hall
    have hframe := hall.rest_eq
    rw [hend, List.append_nil] at hframe
    exact ⟨pieces, ⟨lt_of_word hdeclared, hframe⟩, rfl⟩
  · cases hopen

end TrafficControl
