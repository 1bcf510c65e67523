import TrafficControl.Proofs.Bytes.Takes
import TrafficControl.Proofs.Protocol.Compositional
import TrafficControl.Proofs.Protocol.Encodability

/-!
# Where lengths are compared

A message that has another length than it declares is one of the failures of framing. It is found in
one place only, where a frame is opened: no writing stops for it, and no reader of what stands inside a
frame reports it. A frame that declares the length of the bytes at hand therefore never fails in this
way, whatever else is wrong with it (`Response.decode_agrees`).
-/

namespace TrafficControl

/-- The failure is not that a message has another length than it declares. -/
def FrameError.Agrees (e : FrameError) : Prop := ∀ declared actual, e ≠ .lengthMismatch declared actual

theorem FrameError.OfContent.agrees {e : FrameError} (h : e.OfContent) : e.Agrees := by
  rintro declared actual rfl
  exact h

variable {α : Type}

/-! ### Writing -/

/-- Writing that stops, but not for a length that was declared. -/
def Emission.Agrees (a : Emission) : Prop := ∀ e, a.stopped = some e → e.Agrees

/-- What is reported for a size that is too large. -/
theorem Count.excess_agrees (k : Count) : k.excess.Agrees := by
  cases k <;> exact nofun

theorem Emission.Bears.agrees {a : Emission} {counts : List Count} {width : Nat}
    (h : a.Bears counts width) : a.Agrees := by
  intro e he
  obtain ⟨k, -, rfl⟩ := Count.exists_of_firstExcess (h.stopped_eq.symm.trans he)
  exact k.excess_agrees

theorem Emission.Agrees.of_result {a : Emission} {e : FrameError} (h : a.Agrees)
    (he : a.result = .error e) : e.Agrees :=
  h e (result_eq_error_iff.mp he)

/-- A request that cannot be framed is too long. -/
theorem Request.encode_agrees {commands : List Command} {e : FrameError}
    (h : Request.encode commands = .error e) : e.Agrees := by
  have hbody := (Emission.Bears.concat fun c (_ : c ∈ commands) => c.bears_emit).agrees
  unfold encode Frame.close at h
  rcases hresult : (Emission.concat (commands.map Command.emit)).result with e' | bytes
  · rw [hresult] at h
    cases h
    exact hbody.of_result hresult
  · rw [hresult] at h
    replace h : (if 4 + bytes.length < UInt32.size then pure (Word.bytes 4 (4 + bytes.length) ++ bytes)
      else throw (.frameTooLarge (4 + bytes.length)) : Except FrameError Bytes) = .error e := h
    split at h
    · cases h
    · cases h
      exact nofun

/-! ### Reading -/

/-- Reading that fails, but not for a length that was declared. -/
def Reader.Agrees (r : Reader α) : Prop := EStateM.FailsOnly r FrameError.Agrees

namespace Reader.Agrees

open EStateM

theorem compositional : Compositional fun _ r _ => r.Agrees where
  pure _ := .pure _
  throw h := .throw h.agrees
  bind := .bind
  take n := by
    intro c e c' h
    obtain ⟨-, rfl, -⟩ := take_eq_error_iff.mp h
    exact nofun
  byte := by
    intro c e c' h
    obtain ⟨-, rfl, -⟩ := byte_eq_error_iff.mp h
    exact nofun

theorem int32 : Reader.int32.Agrees := compositional.int32

theorem text : Reader.text.Agrees := compositional.text

theorem readParts (n : Nat) (t : ValueType) : (Value.readParts (Value.readWithin n) t).Agrees :=
  have hwithin : (Value.readWithin n).Agrees :=
    compositional.readWithin (fun _ => .throw nofun) (Nat.le_refl n)
  compositional.readParts_self hwithin t

theorem times {r : Reader α} (hr : r.Agrees) (n : Nat) : (Reader.times r n).Agrees :=
  @Compositional.times _ _ r r compositional hr n

theorem untilEnd {r : Reader α} (hr : r.Agrees) : (Reader.untilEnd r).Agrees := by
  have honto : ∀ fuel done, (Reader.untilEndOnto r fuel done).Agrees := by
    intro fuel
    induction fuel with
    | zero => exact fun done => .pure _
    | succ fuel ih =>
      refine fun done => .bind .get fun c => ?_
      split
      · exact .pure _
      · exact .bind hr fun a => ih _
  exact .bind .get fun c => honto _ _

theorem status : Status.read.Agrees := by
  have hfields : (do
      let result ← Reader.byte
      let description ← Reader.text
      pure (result, description) : Reader (UInt8 × String)).Agrees :=
    .bind compositional.byte fun _ => .bind text fun _ => .pure _
  refine .bind compositional.command fun c => ?_
  dsimp only
  split
  · exact .pure _
  · next e c' h => exact .throw (hfields _ e c' h)

theorem container : Container.read.Agrees := by
  refine .bind status fun s => .bind ?_ fun reply => .pure _
  unfold Container.readReply
  split
  · exact .pure _
  · split
    · exact .bind compositional.count fun n => .map _ (times compositional.command n)
    · exact .map _ compositional.command

end Reader.Agrees

/-- A frame that declares the length of the bytes at hand is opened. -/
theorem Frame.openLength_of_declared {frame : Bytes} (hle : 4 ≤ frame.length)
    (hheader : Word.value (frame.take 4) = frame.length) :
    Frame.openLength frame.length ⟨frame, 0⟩ = .ok () ⟨frame.drop 4, 4⟩ := by
  have htake : Reader.take 4 ⟨frame, 0⟩ = .ok (frame.take 4) ⟨frame.drop 4, 4⟩ :=
    Reader.take_of_le hle
  have hword : Reader.word 4 ⟨frame, 0⟩ = .ok frame.length ⟨frame.drop 4, 4⟩ := by
    rw [← hheader]
    exact EStateM.map_of_ok _ htake
  rw [openLength, EStateM.bind_of_ok hword, if_pos rfl]
  rfl

/-- Nor does anything inside it report a length. -/
theorem Response.decode_agrees {frame : Bytes} {e : FrameError} (hle : 4 ≤ frame.length)
    (hheader : Word.value (frame.take 4) = frame.length) (h : Response.decode frame = .error e) :
    e.Agrees := by
  have hopen := Frame.openLength_of_declared hle hheader
  unfold decode Frame.decode at h
  dsimp only at h
  rw [EStateM.bind_of_ok hopen] at h
  split at h
  · cases h
  · next e' c' hread =>
    cases h
    exact Reader.Agrees.untilEnd .container _ _ _ hread

end TrafficControl
