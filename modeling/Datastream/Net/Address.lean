import Datastream.Text.Hex

/-!
# Host addresses

Internet addresses of both kinds, and their text: dotted decimal, or groups of hexadecimal digits
in which the first longest run of two or more zero groups is left out. Reading takes every way of
leaving zero groups out, and a dotted end.
-/
namespace Datastream

inductive HostAddress
  | v4 (bits : BitVec 32)
  | v6 (bits : BitVec 128)
  deriving DecidableEq, Repr

/-- The kinds of address that the wire distinguishes. -/
inductive NetworkLayer
  | ipv4
  | ipv6
  | any
  | unknown
  deriving DecidableEq, Repr

def NetworkLayer.ofByte (b : UInt8) : NetworkLayer :=
  if b = 0 then ipv4 else if b = 1 then ipv6 else if b = 2 then any else unknown

def NetworkLayer.name : NetworkLayer → String
  | ipv4 => "IPv4"
  | ipv6 => "IPv6"
  | any => "Any"
  | unknown => "Unknown"

namespace HostAddress

/-- A group's digits without leading zeros. -/
def groupText (n : Nat) : String := String.ofList (Nat.toDigits 16 n)

def groups (bits : BitVec 128) : List Nat :=
  (List.range 8).map fun i => bits.toNat / Nat.pow 65536 (7 - i) % 65536

def leadingZeros : List Nat → Nat
  | 0 :: rest => leadingZeros rest + 1
  | _ => 0

/-- Where the first longest run of zero groups starts, looking from place `at` on, and its length. -/
def longestZeros (place : Nat) : List Nat → Nat × Nat
  | [] => (place, 0)
  | g :: rest =>
    let here := leadingZeros (g :: rest)
    let later := longestZeros (place + 1) rest
    if here ≥ later.2 then (place, here) else later

def dotted (n : Nat) : String :=
  ".".intercalate ((List.range 4).map fun i => toString (n / Nat.pow 256 (3 - i) % 256))

def text : HostAddress → String
  | v4 bits => dotted bits.toNat
  | v6 bits =>
    if bits.toNat / 0x100000000 = 0xFFFF then "::ffff:" ++ dotted (bits.toNat % 0x100000000)
    else
      let gs := groups bits
      let join (l : List Nat) := ":".intercalate (l.map groupText)
      let (start, length) := longestZeros 0 gs
      if length > 1 then join (gs.take start) ++ "::" ++ join (gs.drop (start + length))
      else join gs

def parts (separator : Char) (cs : List Char) : List (List Char) :=
  cs.foldr (fun c acc =>
    if c = separator then [] :: acc
    else match acc with
      | [] => [[c]]
      | part :: rest => (c :: part) :: rest) [[]]

/-- A decimal number below 256 of at most three digits, without leading zeros. -/
def octet? (cs : List Char) : Option Nat :=
  if cs.isEmpty || 3 < cs.length || !cs.all Char.isDigit || (cs.head? = some '0' && 1 < cs.length) then
    none
  else
    let n := cs.foldl (fun n c => n * 10 + (c.toNat - 48)) 0
    if n < 256 then some n else none

def dotted? (cs : List Char) : Option Nat :=
  match (parts '.' cs).mapM octet? with
  | some [a, b, c, d] => some (((a * 256 + b) * 256 + c) * 256 + d)
  | _ => none

/-- A group of one to four hexadecimal digits. -/
def group? (cs : List Char) : Option Nat :=
  if cs.isEmpty || 4 < cs.length then none
  else cs.foldlM (fun n c => (Hex.value? c).map (n * 16 + ·)) 0

def groups? (cs : List Char) : Option (List Nat) :=
  if cs.isEmpty then some [] else (parts ':' cs).mapM group?

/-- Groups between colons, of which the last two may be dotted. -/
def endGroups? (cs : List Char) : Option (List Nat) :=
  let back := cs.reverse
  let last := (back.takeWhile (· ≠ ':')).reverse
  match dotted? last with
  | none => groups? cs
  | some n =>
    match back.dropWhile (· ≠ ':') with
    | [] => some [n / 65536, n % 65536]
    | _ :: front => ((parts ':' front.reverse).mapM group?).map (· ++ [n / 65536, n % 65536])

/-- What stands before and after the first two colons in a row. -/
def splitGap : List Char → Option (List Char × List Char)
  | ':' :: ':' :: rest => some ([], rest)
  | c :: rest => (splitGap rest).map fun p => (c :: p.1, p.2)
  | [] => none

def ofGroups (gs : List Nat) : HostAddress := v6 (.ofNat 128 (gs.foldl (fun n g => n * 65536 + g) 0))

def parse? (s : String) : Option HostAddress :=
  let cs := s.toList
  match dotted? cs with
  | some n => some (v4 (.ofNat 32 n))
  | none =>
    match splitGap cs with
    | none => do
      let gs ← endGroups? cs
      if gs.length = 8 then return ofGroups gs else none
    | some (before, after) => do
      let front ← groups? before
      let back ← endGroups? after
      if front.length + back.length ≤ 7 then
        return ofGroups (front ++ List.replicate (8 - front.length - back.length) 0 ++ back)
      else none

end HostAddress
end Datastream
