import Datastream.Bytes

/-!
# UTF-8

Text is written as UTF-8. Reading never fails: every longest piece of bytes that begins no
character, or breaks off inside one, reads as one replacement character.
-/
namespace Datastream.Utf8

/-- U+FFFD, which stands for bytes that are no text. -/
def replacement : Char := '\uFFFD'

def encode (s : String) : Bytes := s.toList.flatMap String.utf8EncodeChar

/-- Whether a byte continues a character. -/
def isContinuation (b : UInt8) : Bool := 0x80 ≤ b && b ≤ 0xBF

/-- The six payload bits of a continuation byte. -/
def payload (b : UInt8) : Nat := b.toNat % 64

/-- How many bytes follow a lead byte, and the range its second byte must lie in; `none` for a
byte that leads nothing. The ranges exclude overlong forms, surrogates and all above U+10FFFF. -/
def lead (b : UInt8) : Option (Nat × UInt8 × UInt8) :=
  if 0xC2 ≤ b && b ≤ 0xDF then some (1, 0x80, 0xBF)
  else if b == 0xE0 then some (2, 0xA0, 0xBF)
  else if b == 0xED then some (2, 0x80, 0x9F)
  else if 0xE1 ≤ b && b ≤ 0xEF then some (2, 0x80, 0xBF)
  else if b == 0xF0 then some (3, 0x90, 0xBF)
  else if 0xF1 ≤ b && b ≤ 0xF3 then some (3, 0x80, 0xBF)
  else if b == 0xF4 then some (3, 0x80, 0x8F)
  else none

/-- How many of the next `n` bytes are continuation bytes, up to the first that is not. -/
def continued : Nat → Bytes → Nat
  | n + 1, b :: rest => if isContinuation b then continued n rest + 1 else 0
  | _, _ => 0

/-- The character that begins with byte `b`, and how many of the bytes after it belong to it. -/
def first (b : UInt8) (rest : Bytes) : Char × Nat :=
  if b < 0x80 then (Char.ofNat b.toNat, 0)
  else match lead b, rest with
    | some (more, low, high), second :: others =>
      if low ≤ second && second ≤ high then
        let used := continued (more - 1) others + 1
        if used = more then
          let head := b.toNat % Nat.pow 2 (6 - more)
          (Char.ofNat ((rest.take more).foldl (fun n x => n * 64 + payload x) head), used)
        else (replacement, used)
      else (replacement, 0)
    | _, _ => (replacement, 0)

def chars : Bytes → List Char
  | [] => []
  | b :: rest => (first b rest).1 :: chars (rest.drop (first b rest).2)
termination_by b => b.length
decreasing_by simp only [List.length_drop, List.length_cons]; omega

/-- The text that a byte string spells, with replacement characters for what is no text. -/
def decode (b : Bytes) : String := String.ofList (chars b)

/-- The text that a byte string spells, if every byte belongs to a character. -/
def decode? (b : Bytes) : Option String :=
  let s := decode b
  if encode s = b then some s else none

end Datastream.Utf8
