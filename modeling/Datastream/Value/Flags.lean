/-!
# Flags

A set of flags is a word of which only the bits in a mask have a meaning. Sets may hold other
bits; `truncate` drops them.

`truncate` models `from_bits_truncate`.
-/
namespace Datastream

/-- A word of flags whose known bits are those of `mask`. -/
structure Flags {width : Nat} (mask : BitVec width) where
  bits : BitVec width
  deriving DecidableEq, Repr

namespace Flags

variable {width : Nat} {mask : BitVec width}

def empty : Flags mask := ⟨0⟩

/-- Every flag with a meaning. -/
def all : Flags mask := ⟨mask⟩

/-- Keeps the bits with a meaning. -/
def truncate (bits : BitVec width) : Flags mask := ⟨bits &&& mask⟩

def contains (a b : Flags mask) : Bool := a.bits &&& b.bits == b.bits

def isEmpty (a : Flags mask) : Bool := a.bits == 0

def union (a b : Flags mask) : Flags mask := ⟨a.bits ||| b.bits⟩

def intersect (a b : Flags mask) : Flags mask := ⟨a.bits &&& b.bits⟩

def toNat (a : Flags mask) : Nat := a.bits.toNat

/-- The flags of a number, read modulo the word. -/
def ofNat (n : Nat) : Flags mask := ⟨BitVec.ofNat width n⟩

end Flags
end Datastream
