import Datastream.Bytes
import Datastream.Error

/-!
# Frames

A frame is a payload behind its length in four bytes. A codec refuses frames above its limit, on
both sides; the codec keeps no state but the bytes that no frame was cut from yet.

Models the codec's `decode` (`cut`), `decode_eof` (`cutLast`) and `encode`.
-/
namespace Datastream

/-- Cuts and writes frames of limited size. -/
structure FrameCodec where
  limit : Nat
  deriving DecidableEq, Repr

namespace FrameCodec

def defaultLimit : Nat := 67108864

/-- What a codec finds at the front of the bytes it has. -/
inductive Cut
  | frame (payload rest : Bytes)
  | incomplete
  | failed (error : Error)
  deriving DecidableEq, Repr

/-- Cuts the first frame off, once all of it is there. -/
def cut (c : FrameCodec) (buffer : Bytes) : Cut :=
  match buffer.cut 4 with
  | none => .incomplete
  | some (lengthBytes, rest) =>
    let length := lengthBytes.toNat
    if c.limit < length then .failed (.oversizedFrame length)
    else match rest.cut length with
      | none => .incomplete
      | some (payload, rest) => .frame payload rest

/-- Cuts the first frame off when no more bytes will come: part of a frame is an error then. -/
def cutLast (c : FrameCodec) (buffer : Bytes) : Cut :=
  match c.cut buffer with
  | .incomplete => if buffer.isEmpty then .incomplete else .failed .connectionClosed
  | result => result

theorem length_of_cut {c : FrameCodec} {buffer payload rest : Bytes}
    (h : c.cut buffer = .frame payload rest) : rest.length < buffer.length := by
  simp only [cut, Bytes.cut_eq] at h
  split at h
  · cases h
  · rename_i lengthBytes tail hcut
    split at hcut
    · rename_i hlen
      obtain ⟨rfl, rfl⟩ := Prod.mk.inj (Option.some.inj hcut)
      split at h
      · cases h
      · split at h
        · cases h
        · rename_i payload' rest' hpay
          split at hpay
          · obtain ⟨rfl, rfl⟩ := Prod.mk.inj (Option.some.inj hpay)
            cases h
            simp only [List.length_drop]
            omega
          · cases hpay
    · cases hcut

/-- All that can be cut off: the payloads, the bytes that are left, and the error that stands in the
way of more. -/
structure Frames where
  payloads : List Bytes
  rest : Bytes
  failure : Option Error

def cutAll (c : FrameCodec) (buffer : Bytes) : Frames :=
  match _h : c.cut buffer with
  | .incomplete => ⟨[], buffer, none⟩
  | .failed error => ⟨[], buffer, some error⟩
  | .frame payload rest =>
    let later := c.cutAll rest
    { later with payloads := payload :: later.payloads }
termination_by buffer.length
decreasing_by exact length_of_cut _h

/-- Writes a payload behind its length at the end of a buffer. The length field keeps the low 32 bits;
a payload above the limit is refused before anything is written. -/
def encodeInto (c : FrameCodec) (payload : Bytes) : EStateM Error Bytes Unit := do
  if c.limit < payload.length then throw (.oversizedFrame payload.length)
  modify (· ++ Bytes.ofNat 4 payload.length)
  modify (· ++ payload)

/-- The bytes of one frame: what is in an empty buffer once the frame was written to it. -/
def encode (c : FrameCodec) (payload : Bytes) : Except Error Bytes :=
  match c.encodeInto payload [] with
  | .ok _ wire => .ok wire
  | .error error _ => .error error

end FrameCodec
end Datastream
