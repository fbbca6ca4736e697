import Datastream.Value.Basic

/-!
# Equality of values

Values compare as the numbers they stand for: a NaN differs from itself, the two zeros are equal,
and two date-times with offsets are equal if they are the same instant.
-/
namespace Datastream

/-- Equality of two bit patterns of floating-point numbers, `infinity` being that of infinity and
`sign` that of the sign. -/
def ieeeEqual (infinity sign a b : Nat) : Bool :=
  let isNaN (n : Nat) := n % sign > infinity
  !isNaN a && !isNaN b && (a == b || (a % sign == 0 && b % sign == 0))

namespace DateTime

/-- Whether two date-times are of one kind and denote the same. -/
def equal : DateTime → DateTime → Bool
  | offset a, offset b =>
    a.reading.seconds - a.offset.seconds.toInt == b.reading.seconds - b.offset.seconds.toInt
      && a.reading.time.nanos == b.reading.time.nanos
  | a, b => a == b

end DateTime

namespace Value

mutual

def equal : Value → Value → Bool
  | float a, float b => ieeeEqual 0x7f800000 0x80000000 a.toNat b.toNat
  | double a, double b => ieeeEqual 0x7ff0000000000000 0x8000000000000000 a.toNat b.toNat
  | dateTime a, dateTime b => a.equal b
  | list a, list b => equalItems a b
  | map a, map b => equalFields a b
  | record k a, record l b => k == l && equalFields a b
  | boxed a, boxed b => equal a b
  | void, void => true
  | bool a, bool b => a == b
  | char a, char b => a == b
  | uchar a, uchar b => a == b
  | short a, short b => a == b
  | ushort a, ushort b => a == b
  | int a, int b => a == b
  | uint a, uint b => a == b
  | long a, long b => a == b
  | ulong a, ulong b => a == b
  | char16 a, char16 b => a == b
  | string a, string b => a == b
  | stringList a, stringList b => a == b
  | bytes a, bytes b => a == b
  | date a, date b => a == b
  | time a, time b => a == b
  | uuid a, uuid b => a == b
  | bufferId a, bufferId b => a == b
  | bufferInfo a, bufferInfo b => a == b
  | message a, message b => a == b
  | identityId a, identityId b => a == b
  | networkId a, networkId b => a == b
  | msgId a, msgId b => a == b
  | hostAddress a, hostAddress b => a == b
  | peerPtr a, peerPtr b => a == b
  | dccIpDetection a, dccIpDetection b => a == b
  | dccPortSelection a, dccPortSelection b => a == b
  | _, _ => false

/-- Equality of lists of values, item by item. -/
def equalItems : List Value → List Value → Bool
  | [], [] => true
  | a :: as, b :: bs => equal a b && equalItems as bs
  | _, _ => false

def equalFields : List (String × Value) → List (String × Value) → Bool
  | [], [] => true
  | (k, a) :: as, (l, b) :: bs => k == l && equal a b && equalFields as bs
  | _, _ => false

end

end Value
end Datastream
