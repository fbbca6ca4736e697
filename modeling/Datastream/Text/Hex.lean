import Datastream.Bytes

/-!
# Hexadecimal text

Bytes written as pairs of lower-case digits, and read back from digits of either case.
-/
namespace Datastream.Hex

/-- The lower-case digit of a number below sixteen. -/
def digit (n : Nat) : Char := if n < 10 then Char.ofNat (48 + n) else Char.ofNat (87 + n)

def value? (c : Char) : Option Nat :=
  if '0' ≤ c ∧ c ≤ '9' then some (c.toNat - '0'.toNat)
  else if 'a' ≤ c ∧ c ≤ 'f' then some (c.toNat - 'a'.toNat + 10)
  else if 'A' ≤ c ∧ c ≤ 'F' then some (c.toNat - 'A'.toNat + 10)
  else none

/-- Two digits per byte. -/
def chars (b : Bytes) : List Char := b.flatMap fun x => [digit (x.toNat / 16), digit (x.toNat % 16)]

def encode (b : Bytes) : String := String.ofList (chars b)

/-- The bytes that pairs of digits spell; `none` for a character that is no digit or stands
alone. -/
def decodeChars? : List Char → Option Bytes
  | [] => some []
  | [_] => none
  | a :: b :: rest => do
    let high ← value? a
    let low ← value? b
    let tail ← decodeChars? rest
    return UInt8.ofNat (high * 16 + low) :: tail

def decode? (s : String) : Option Bytes := decodeChars? s.toList

/-- A number as exactly `width` digits. -/
def padded (width n : Nat) : String :=
  String.ofList ((List.range width).map fun i => digit (n / Nat.pow 16 (width - 1 - i) % 16))

end Datastream.Hex
