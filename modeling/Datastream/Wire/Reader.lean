import Datastream.Bytes
import Datastream.Error

/-!
# Readers

A reader takes bytes off the front of its input. Whether it succeeds or fails, the bytes that it
has not taken stay behind.

Models `ensure`, which comes before every reading of a known number of bytes (`take`).
-/
namespace Datastream

abbrev Reader := EStateM Error Bytes

namespace Reader

def take (n : Nat) : Reader Bytes := fun input =>
  match input.cut n with
  | some (taken, rest) => .ok taken rest
  | none => .error (.truncated n input.length) input

/-- Fails unless at least `n` bytes remain. -/
def ensure (n : Nat) : Reader Unit := fun input =>
  if input.holds n then .ok () input else .error (.truncated n input.length) input

/-- A number of `width` bytes, most significant first. -/
def number (width : Nat) : Reader Nat := Bytes.toNat <$> take width

/-- What `read` reads, `n` times over. -/
def times {α : Type} (n : Nat) (read : Reader α) : Reader (List α) := go n []
where
  go : Nat → List α → Reader (List α)
    | 0, done => pure done.reverse
    | n + 1, done => do go n ((← read) :: done)

end Reader
end Datastream
