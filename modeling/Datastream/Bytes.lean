/-!
# Byte strings

A byte string is a list of octets. Numbers are spelt most significant byte first, in a fixed
number of bytes. `cut` is the only way a reader takes bytes off the front.
-/
namespace Datastream

/-- A finite byte string, first byte first. -/
abbrev Bytes := List UInt8

namespace Bytes

/-- The number that the bytes spell, most significant first. -/
def toNat (b : Bytes) : Nat := b.foldl (fun n x => n * 256 + x.toNat) 0

/-- The low `width` bytes of `n`, most significant first. -/
def ofNat : (width : Nat) → (n : Nat) → Bytes
  | 0, _ => []
  | width + 1, n => UInt8.ofNat (n / Nat.pow 256 width) :: ofNat width n

/-- Whether there are at least `n` bytes; looks at no more than `n` of them. -/
def holds : Nat → Bytes → Bool
  | 0, _ => true
  | _ + 1, [] => false
  | n + 1, _ :: b => holds n b

/-- The first `n` bytes and the rest, when there are that many. -/
def cut (n : Nat) (b : Bytes) : Option (Bytes × Bytes) :=
  if b.holds n then some (b.splitAt n) else none

def u16 (n : UInt16) : Bytes := ofNat 2 n.toNat
def u32 (n : UInt32) : Bytes := ofNat 4 n.toNat
def u64 (n : UInt64) : Bytes := ofNat 8 n.toNat

theorem length_ofNat (width n : Nat) : (ofNat width n).length = width := by
  induction width with
  | zero => rfl
  | succ width ih => simp [ofNat, ih]

theorem holds_iff (n : Nat) (b : Bytes) : b.holds n = true ↔ n ≤ b.length := by
  induction n generalizing b with
  | zero => simp [holds]
  | succ n ih => cases b with
    | nil => simp [holds]
    | cons x b => simp [holds, ih]

theorem cut_eq (n : Nat) (b : Bytes) :
    b.cut n = if n ≤ b.length then some (b.take n, b.drop n) else none := by
  simp [cut, holds_iff]

end Bytes
end Datastream
