import TrafficControl.Client.Error
import TrafficControl.Transport.Stream

/-!
# Round trips

A round trip sends one framed request and takes one framed response. A `Link` is whatever can do
so. Over a stream the length of the response is looked at before its body is read, so that a length
that no response can have costs the four bytes of the length and no more.
-/

namespace TrafficControl

/-- What carries round trips. -/
class Link (σ : Type) where
  /-- Sends a framed request and gives the whole framed response. -/
  transact : Bytes → EStateM ClientError σ Bytes

namespace Stream

/-- The bytes of a frame's length. -/
def frameHeader : Nat := 4

/-- The longest response that is accepted. -/
def maxFrame : Nat := 64 * 1024 * 1024

/-- Makes a fault of the stream a failure of the client. -/
def carry {α : Type} (transfer : Transfer α) : EStateM ClientError Stream α := fun s =>
  match transfer s with
  | .ok a t => .ok a t
  | .error fault t => .error (.transport fault) t

/-- The length a response declares, if a response can have it. -/
def frameLength (header : Bytes) : Except ClientError Nat :=
  let total := Word.value header
  if total < frameHeader then .error (.framing (.malformedLength total))
  else if maxFrame < total then .error (.framing (.frameTooLarge total))
  else .ok total

/-- Sends a request and takes exactly one frame. -/
def exchange (request : Bytes) : EStateM ClientError Stream Bytes := do
  carry (writeAll request)
  carry flush
  let header ← carry (readExactly frameHeader)
  let total ← liftExcept (frameLength header)
  let body ← carry (readExactly (total - frameHeader))
  pure (header ++ body)
where
  /-- Passes a failure on. -/
  liftExcept {α : Type} : Except ClientError α → EStateM ClientError Stream α
    | .ok a => pure a
    | .error e => throw e

end Stream

instance : Link Stream := ⟨Stream.exchange⟩

end TrafficControl
