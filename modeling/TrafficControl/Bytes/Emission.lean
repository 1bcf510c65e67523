import TrafficControl.Bytes.Word
import TrafficControl.Number.Binary
import TrafficControl.Protocol.FrameError
import TrafficControl.Text.Utf8

/-!
# Writing bytes

An `Emission` is what a piece of writing leaves behind: the bytes written, and the failure that
stopped it, if one did. Two are joined by `++`: what follows a failure is not written.
-/

namespace TrafficControl

/-- The bytes written, and what stopped the writing. -/
structure Emission where
  bytes : Bytes := []
  stopped : Option FrameError := none
  deriving DecidableEq, Repr

namespace Emission

/-- Writes one piece after another. -/
def andThen (a b : Emission) : Emission :=
  match a.stopped with
  | some _ => a
  | none => ⟨a.bytes ++ b.bytes, b.stopped⟩

instance : Append Emission := ⟨andThen⟩

/-- Writes pieces in order. -/
def concat (pieces : List Emission) : Emission :=
  pieces.foldr (· ++ ·) {}

/-- Writes nothing and stops. -/
def stop (e : FrameError) : Emission := ⟨[], some e⟩

/-- The bytes, if nothing stopped the writing. -/
def result (a : Emission) : Except FrameError Bytes :=
  match a.stopped with
  | none => .ok a.bytes
  | some e => .error e

def raw (bs : Bytes) : Emission := ⟨bs, none⟩

def byte (b : UInt8) : Emission := raw [b]

def int8 (n : Int8) : Emission := byte n.toUInt8

/-- Writes a number in `width` bytes. -/
def word (width n : Nat) : Emission := raw (Word.bytes width n)

def uint32 (n : UInt32) : Emission := word 4 n.toNat

def int32 (n : Int32) : Emission := uint32 n.toUInt32

def binary32 (x : Binary32) : Emission := uint32 x.bits

def binary64 (x : Binary64) : Emission := word 8 x.bits.toNat

/-- Counts are below this, as their field is signed. -/
def countBound : Nat := 0x80000000

/-- Writes a count of elements. -/
def count (n : Nat) : Emission :=
  if n < countBound then word 4 n else stop (.frameTooLarge n)

/-- Writes a counted text. -/
def text (s : String) : Emission :=
  let bs := Utf8.bytes s
  count bs.length ++ raw bs

/-- Writes a counted list of texts. -/
def textList (items : List String) : Emission :=
  count items.length ++ concat (items.map text)

end Emission

end TrafficControl
