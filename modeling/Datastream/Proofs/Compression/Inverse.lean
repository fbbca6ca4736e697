import Datastream.Compression.Stream
import Mathlib.Data.List.Infix

/-!
# Inverse codecs

What is assumed of a compressor and the decompressor at the other end: a part of a compressed
stream stands for some bytes, more of the stream stands for more bytes, and all that was written
before a synchronization can be read after it (`Inverse`). The decompressor may take in all of its
input and hold output back; but if it puts out nothing, it holds nothing back.

From this follows what the sending side of a stream leaves on the wire: after a flush that was
carried out, the wire stands for all that was written (`Sender.plain_wire`).
-/
namespace Datastream.Compression

variable {σ τ : Type}

/-- A compressor has come to this state, has taken in `written` and has put out `emitted`. -/
inductive Emitted (c : Compressor σ) (start : σ) : σ → (written emitted : Bytes) → Prop
  | start : Emitted c start start [] []
  | feed {s : σ} {written emitted : Bytes} (before : Emitted c start s written emitted)
      (data : Bytes) :
      Emitted c start (c.feed s data).1 (written ++ data) (emitted ++ (c.feed s data).2)
  | sync {s : σ} {written emitted : Bytes} (before : Emitted c start s written emitted) :
      Emitted c start (c.sync s).1 written (emitted ++ (c.sync s).2)

/-- A decompressor has come to this state, has taken in `taken` and has put out `given`. -/
inductive Given (d : Decompressor τ) (start : τ) : τ → (taken given : Bytes) → Prop
  | start : Given d start start [] []
  | call {t : τ} {taken given input : Bytes} {room : Nat} {flow : Inflow τ input room}
      (before : Given d start t taken given) (called : d.call t input room = .ok flow) :
      Given d start flow.state (taken ++ input.take flow.consumed) (given ++ flow.output)

/-- A call of a decompressor with room, within a stream that the compressor put out. -/
structure Within (c : Compressor σ) (cs : σ) (d : Decompressor τ) (ds : τ) (t : τ)
    (taken given input : Bytes) (room : Nat) : Prop where
  room : 0 < room
  given : Given d ds t taken given
  stream : ∃ s written emitted, Emitted c cs s written emitted ∧ taken ++ input <+: emitted

/-- A decompressor reads what a compressor writes, both from their starts. The bytes that a part of
a compressed stream stands for are `plain` of it. -/
structure Inverse (c : Compressor σ) (cs : σ) (d : Decompressor τ) (ds : τ)
    (plain : Bytes → Bytes) : Prop where
  /-- More of a stream stands for more bytes. -/
  mono : ∀ {s written emitted more part}, Emitted c cs s written emitted → more <+: emitted →
    part <+: more → plain part <+: plain more
  /-- After a synchronization a stream stands for all that was written. -/
  sync : ∀ {s written emitted}, Emitted c cs s written emitted →
    plain (emitted ++ (c.sync s).2) = written
  accepts : ∀ {t taken given input room}, Within c cs d ds t taken given input room →
    ∃ flow, d.call t input room = .ok flow
  endless : ∀ {t taken given input room flow}, Within c cs d ds t taken given input room →
    d.call t input room = .ok flow → flow.ended = false
  /-- What is put out is what the input stands for. -/
  faithful : ∀ {t taken given input room flow}, Within c cs d ds t taken given input room →
    d.call t input room = .ok flow → given ++ flow.output <+: plain (taken ++ input.take flow.consumed)
  /-- With input and room something happens. -/
  progress : ∀ {t taken given input room flow}, Within c cs d ds t taken given input room →
    d.call t input room = .ok flow → input ≠ [] → flow.output = [] → 0 < flow.consumed
  /-- Output is held back only behind other output, which fills the room. -/
  prompt : ∀ {t taken given input room flow}, Within c cs d ds t taken given input room →
    d.call t input room = .ok flow → flow.output = [] → given = plain (taken ++ input.take flow.consumed)

/-- A decompressor that leaves some of its input when it holds output back. -/
def Eager (c : Compressor σ) (cs : σ) (d : Decompressor τ) (ds : τ) (plain : Bytes → Bytes) : Prop :=
  ∀ {t taken given input room flow}, Within c cs d ds t taken given input room →
    d.call t input room = .ok flow → flow.consumed = input.length →
    given ++ flow.output = plain (taken ++ input)

/-- What is done at the sending side. A flush synchronizes, and then the stream below takes what is
pending, in pieces of any size. -/
inductive SenderMove
  | write (data : Bytes)
  | sync
  | drain (accepted : Nat)

/-- The sending side of a stream, and what came of it: all that was written, and all that the stream
below took. -/
structure Sender (σ : Type) where
  writer : DeflateWriter σ
  written : Bytes := []
  wire : Bytes := []

namespace Sender

variable (c : Compressor σ)

def fresh (start : σ) : Sender σ where
  writer := { state := start }

def step (s : Sender σ) : SenderMove → Sender σ
  | .write data => { s with writer := s.writer.writeAll c data, written := s.written ++ data }
  | .sync => { s with writer := s.writer.sync c }
  | .drain accepted =>
    let (piece, writer) := s.writer.drain accepted
    { s with writer, wire := s.wire ++ piece }

/-- A flush was carried out, and nothing was written since. -/
def Flushed (s : Sender σ) : Prop := s.writer.dirty = false ∧ s.writer.pending = []

/-- What the stream below took and what is pending came from the compressor; and if nothing is to be
flushed, it stands for all that was written. -/
structure Sound (c : Compressor σ) (start : σ) (plain : Bytes → Bytes) (s : Sender σ) : Prop where
  emitted : Emitted c start s.writer.state s.written (s.wire ++ s.writer.pending)
  plain : s.writer.dirty = false → plain (s.wire ++ s.writer.pending) = s.written

variable {c} {cs : σ} {d : Decompressor τ} {ds : τ} {plain : Bytes → Bytes}

theorem sound_fresh (inverse : Inverse c cs d ds plain) : (fresh cs).Sound c cs plain where
  emitted := .start
  plain _ := by
    have part : plain [] <+: plain (c.sync cs).2 :=
      inverse.mono (.sync .start) (List.prefix_refl _) (List.nil_prefix ..)
    rw [show plain (c.sync cs).2 = [] from inverse.sync .start] at part
    exact List.prefix_nil.mp part

/-- After more was written, what came from the compressor need not stand for it. -/
theorem Sound.write {s : Sender σ} (sound : s.Sound c cs plain) (data : Bytes) :
    Sound c cs plain { s with
      writer := s.writer.write c data
      written := s.written ++ data } where
  emitted := by
    have fed := sound.emitted.feed data
    rwa [List.append_assoc] at fed
  plain := nofun

/-- The stream below takes of what is pending. -/
theorem Sound.take {s : Sender σ} (sound : s.Sound c cs plain) {writer : DeflateWriter σ}
    {taken : Bytes} (state : writer.state = s.writer.state) (dirty : writer.dirty = s.writer.dirty)
    (pending : taken ++ writer.pending = s.writer.pending) :
    Sound c cs plain { s with writer, wire := s.wire ++ taken } where
  emitted := by
    rw [List.append_assoc, pending, state]
    exact sound.emitted
  plain := by
    rw [List.append_assoc, pending, dirty]
    exact sound.plain

theorem sound_step (inverse : Inverse c cs d ds plain) {s : Sender σ} (sound : s.Sound c cs plain)
    (move : SenderMove) : (s.step c move).Sound c cs plain := by
  cases move with
  | write data =>
    by_cases empty : data = []
    · simpa [step, DeflateWriter.writeAll, empty] using sound
    · have wrote : s.writer.writeAll c data = s.writer.write c data := by
        simp [DeflateWriter.writeAll, empty]
      rw [step, wrote]
      exact sound.write data
  | sync =>
    rw [step, DeflateWriter.sync]
    split
    · have synced := sound.emitted.sync
      have readable := inverse.sync sound.emitted
      rw [List.append_assoc] at synced readable
      exact ⟨synced, fun _ => readable⟩
    · exact sound
  | drain accepted => exact sound.take rfl rfl (List.take_append_drop ..)

theorem sound_run (inverse : Inverse c cs d ds plain) (moves : List SenderMove) :
    (moves.foldl (step c) (fresh cs)).Sound c cs plain := by
  suffices ∀ s : Sender σ, s.Sound c cs plain → (moves.foldl (step c) s).Sound c cs plain from
    this _ (sound_fresh inverse)
  induction moves with
  | nil => exact fun s sound => sound
  | cons move moves ih => exact fun s sound => ih _ (sound_step inverse sound move)

/-- After a flush the wire came from the compressor, and stands for all that was written. -/
theorem plain_wire {s : Sender σ} (sound : s.Sound c cs plain) (flushed : s.Flushed) :
    Emitted c cs s.writer.state s.written s.wire ∧ plain s.wire = s.written := by
  have emitted := sound.emitted
  have readable := sound.plain flushed.1
  rw [flushed.2, List.append_nil] at emitted readable
  exact ⟨emitted, readable⟩

end Sender
end Datastream.Compression
