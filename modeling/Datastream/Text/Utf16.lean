/-!
# UTF-16

Text as 16-bit units. A unit that is half of a surrogate pair without its other half reads as
the replacement character.
-/
namespace Datastream.Utf16

/-- The units of one character: itself, or a surrogate pair above U+FFFF. -/
def encodeChar (c : Char) : List UInt16 :=
  let n := c.toNat
  if n < 0x10000 then [UInt16.ofNat n]
  else [UInt16.ofNat (0xD800 + (n - 0x10000) / 0x400), UInt16.ofNat (0xDC00 + (n - 0x10000) % 0x400)]

def encode (s : String) : List UInt16 := s.toList.flatMap encodeChar

def isHigh (u : UInt16) : Bool := 0xD800 ≤ u && u < 0xDC00
def isLow (u : UInt16) : Bool := 0xDC00 ≤ u && u < 0xE000

def pair (high low : UInt16) : Char :=
  Char.ofNat (0x10000 + (high.toNat - 0xD800) * 0x400 + (low.toNat - 0xDC00))

def chars : List UInt16 → List Char
  | [] => []
  | [u] => [if isHigh u || isLow u then '\uFFFD' else Char.ofNat u.toNat]
  | u :: v :: rest =>
    if isHigh u && isLow v then pair u v :: chars rest
    else (if isHigh u || isLow u then '\uFFFD' else Char.ofNat u.toNat) :: chars (v :: rest)

def decode (units : List UInt16) : String := String.ofList (chars units)

end Datastream.Utf16
