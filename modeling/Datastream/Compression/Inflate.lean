import Datastream.Bytes
import Datastream.Compression.PrefixCode

/-!
# Inflating

Reads a zlib stream: two bytes of header, blocks of compressed data, and a checksum. The input may
break off anywhere; what can be inflated by then is the output.
-/
namespace Datastream.Compression

/-- Why a reader goes no further. -/
inductive Stop
  /-- The input breaks off. -/
  | short
  /-- The input is no zlib stream. -/
  | corrupt
  deriving DecidableEq, Repr

/-- Reads bits of an input, from the place in it that the state holds. -/
abbrev BitReader := ReaderT (Array UInt8) (StateT Nat (Except Stop))

namespace BitReader

def bit : BitReader Bool := do
  let input ← read
  let place ← get
  match input[place / 8]? with
  | none => throw .short
  | some byte =>
    set (place + 1)
    return byte.toNat / Nat.pow 2 (place % 8) % 2 = 1

/-- A number of so many bits, least significant first. -/
def number : (width : Nat) → BitReader Nat
  | 0 => return 0
  | width + 1 => do
    let low ← bit
    let high ← number width
    return low.toNat + 2 * high

def byte : BitReader UInt8 := UInt8.ofNat <$> number 8

/-- Passes over the rest of a byte. -/
def align : BitReader Unit := modify fun place => (place + 7) / 8 * 8

def symbol : PrefixCode → BitReader Nat
  | .node zero one => do
    match ← bit with
    | false => atEnd zero
    | true => atEnd one
  | _ => do
    discard bit
    throw .corrupt
where
  atEnd : PrefixCode → BitReader Nat
    | .symbol n => return n
    | .empty => throw .corrupt
    | .node zero one => do
      match ← bit with
      | false => atEnd zero
      | true => atEnd one

end BitReader

open BitReader

/-- The codes of a block: for literals and lengths, and for distances. -/
structure BlockCodes where
  literals : PrefixCode
  distances : PrefixCode

namespace BlockCodes

def fixed : BlockCodes where
  literals := ((PrefixCode.ofLengths? true (List.replicate 144 8 ++ List.replicate 112 9 ++
    List.replicate 24 7 ++ List.replicate 8 8)).getD .empty)
  distances := (PrefixCode.ofLengths? true (List.replicate 32 5)).getD .empty

/-- The order in which the lengths of the code for lengths are given. -/
def lengthOrder : List Nat := [16, 17, 18, 0, 8, 7, 9, 6, 10, 5, 11, 4, 12, 3, 13, 2, 14, 1, 15]

/-- Reads numbers of three bits for so many places in order. -/
def readLengthLengths : (places : List Nat) → BitReader (List (Nat × Nat))
  | [] => return []
  | place :: places => do
    let length ← number 3
    return (place, length) :: (← readLengthLengths places)

/-- Reads `total` lengths, of which `lengths` are there, latest first. -/
def readLengths (code : PrefixCode) (total : Nat) :
    (fuel : Nat) → (lengths : List Nat) → BitReader (List Nat)
  | 0, lengths => return lengths.reverse
  | fuel + 1, lengths => do
    if total < lengths.length then throw .corrupt
    if lengths.length = total then return lengths.reverse
    let n ← symbol code
    if n < 16 then readLengths code total fuel (n :: lengths)
    else
      match n, lengths with
      | 16, [] => throw .corrupt
      | 16, last :: _ =>
        let times := 3 + (← number 2)
        readLengths code total fuel (List.replicate times last ++ lengths)
      | 17, _ =>
        let times := 3 + (← number 3)
        readLengths code total fuel (List.replicate times 0 ++ lengths)
      | _, _ =>
        let times := 11 + (← number 7)
        readLengths code total fuel (List.replicate times 0 ++ lengths)

def orCorrupt {α : Type} : Option α → BitReader α
  | some a => return a
  | none => throw .corrupt

def read : BitReader BlockCodes := do
  let literals := 257 + (← number 5)
  let distances := 1 + (← number 5)
  let given := 4 + (← number 4)
  if 286 < literals || 30 < distances then throw .corrupt
  let lengthLengths ← readLengthLengths (lengthOrder.take given)
  let code ← orCorrupt (PrefixCode.ofLengths? false
    ((List.range 19).map fun n => (lengthLengths.lookup n).getD 0))
  let lengths ← readLengths code (literals + distances) (literals + distances + 1) []
  let distanceCode ← orCorrupt (PrefixCode.ofLengths? true (lengths.drop literals))
  let literalCode ← orCorrupt (PrefixCode.ofLengths? true (lengths.take literals))
  return ⟨literalCode, distanceCode⟩

end BlockCodes

/-- How the lengths of matches, or their distances, are spelt: a base, and a number of bits that
are added to it. -/
abbrev Bases := List (Nat × Nat)

/-- The bases that `steps` steps lead to, each a number of bits and how many bases have them. -/
def basesFrom (base : Nat) : (steps : List (Nat × Nat)) → Bases
  | [] => []
  | (bits, times) :: steps =>
    (List.range times).map (fun i => (base + i * Nat.pow 2 bits, bits)) ++
      basesFrom (base + times * Nat.pow 2 bits) steps

/-- Lengths from 3 up to 258, of which the last has a symbol of its own. -/
def lengthBases : Bases :=
  basesFrom 3 [(0, 8), (1, 4), (2, 4), (3, 4), (4, 4), (5, 4)] ++ [(258, 0)]

/-- Distances from 1 up to 32768. -/
def distanceBases : Bases :=
  basesFrom 1 ((0, 4) :: (List.range 13).map fun i => (i + 1, 2))

def ofBases (bases : Bases) (n : Nat) : BitReader Nat := do
  match bases[n]? with
  | none => throw .corrupt
  | some (base, bits) => return base + (← number bits)

/-- What a symbol of a block stands for. -/
inductive Token
  | literal (b : UInt8)
  | copy (length distance : Nat)
  | blockEnd

def readToken (codes : BlockCodes) : BitReader Token := do
  let n ← symbol codes.literals
  if n < 256 then return .literal (UInt8.ofNat n)
  else if n = 256 then return .blockEnd
  else
    let length ← ofBases lengthBases (n - 257)
    let distance ← ofBases distanceBases (← symbol codes.distances)
    return .copy length distance

abbrev Inflated := Array UInt8

/-- Repeats what was inflated a distance ago, byte by byte. Before the beginning are zeros. -/
def copyFrom (distance : Nat) : (length : Nat) → Inflated → Inflated
  | 0, out => out
  | length + 1, out =>
    let b := if distance ≤ out.size then out.getD (out.size - distance) 0 else 0
    copyFrom distance length (out.push b)

inductive Ending
  | complete
  | stopped (reason : Stop)
  /-- More would be inflated than was asked for. -/
  | full
  deriving DecidableEq, Repr

/-- How far a stream is inflated: the place in the input, in bits, and the output. -/
structure Extent where
  place : Nat
  out : Inflated
  ending : Ending

/-- The bytes up to a limit; nothing beyond it is put out. -/
def putToken (limit : Nat) (token : Token) (out : Inflated) : Inflated :=
  match token with
  | .literal b => if out.size < limit then out.push b else out
  | .copy length distance => copyFrom distance (min length (limit - out.size)) out
  | .blockEnd => out

def Token.size : Token → Nat
  | .literal _ => 1
  | .copy length _ => length
  | .blockEnd => 0

def inflateTokens (input : Array UInt8) (codes : BlockCodes) (limit : Nat) :
    (fuel place : Nat) → Inflated → Extent
  | 0, place, out => ⟨place, out, .stopped .short⟩
  | fuel + 1, place, out =>
    match readToken codes input place with
    | .error reason => ⟨place, out, .stopped reason⟩
    | .ok (.blockEnd, place) => ⟨place, out, .complete⟩
    | .ok (token, place) =>
      let next := putToken limit token out
      if limit < out.size + token.size then ⟨place, next, .full⟩
      else inflateTokens input codes limit fuel place next

def inflateStored (input : Array UInt8) (limit : Nat) : (left place : Nat) → Inflated → Extent
  | 0, place, out => ⟨place, out, .complete⟩
  | left + 1, place, out =>
    if limit ≤ out.size then ⟨place, out, .full⟩
    else
      match byte input place with
      | .error reason => ⟨place, out, .stopped reason⟩
      | .ok (b, place) => inflateStored input limit left place (out.push b)

inductive BlockKind
  | stored (length : Nat)
  | coded (codes : BlockCodes)

/-- Reads whether a block is the last one, and what it announces. -/
def readBlockHeader : BitReader (Bool × BlockKind) := do
  let last ← bit
  match ← number 2 with
  | 0 =>
    align
    let length ← number 16
    let complement ← number 16
    if length + complement ≠ 65535 then throw .corrupt
    return (last, .stored length)
  | 1 => return (last, .coded .fixed)
  | 2 => return (last, .coded (← BlockCodes.read))
  | _ => throw .corrupt

def inflateBlocks (input : Array UInt8) (limit : Nat) : (fuel place : Nat) → Inflated → Extent
  | 0, place, out => ⟨place, out, .stopped .short⟩
  | fuel + 1, place, out =>
    match readBlockHeader input place with
    | .error reason => ⟨place, out, .stopped reason⟩
    | .ok ((last, kind), place) =>
      let extent := match kind with
        | .stored length => inflateStored input limit length place out
        | .coded codes => inflateTokens input codes limit (8 * input.size + 1) place out
      if extent.ending = .complete && !last then
        inflateBlocks input limit fuel extent.place extent.out
      else extent

/-- The checksum of an output: two sums modulo 65521. -/
def checksum (out : Inflated) : Nat :=
  let (a, b) := out.foldl (fun (a, b) x =>
    let a := (a + x.toNat) % 65521
    (a, (b + a) % 65521)) (1, 0)
  b * 65536 + a

/-- Reads the header, which tells that the window is at most 32 KiB and that no dictionary is
used. -/
def readStreamHeader : BitReader Unit := do
  let method := (← byte).toNat
  let flags := (← byte).toNat
  if (method * 256 + flags) % 31 ≠ 0 || flags / 32 % 2 = 1 || method % 16 ≠ 8 || 7 < method / 16 then
    throw .corrupt

/-- Reads the checksum, which has to be that of the output. -/
def readChecksum (out : Inflated) : BitReader Unit := do
  align
  let bytes := [← byte, ← byte, ← byte, ← byte]
  if Bytes.toNat bytes ≠ checksum out then throw .corrupt

/-- Inflates a stream as far as its input goes, but not beyond so many bytes of output. -/
def inflate (input : Array UInt8) (limit : Nat) : Extent :=
  match readStreamHeader input 0 with
  | .error reason => ⟨0, #[], .stopped reason⟩
  | .ok ((), place) =>
    let extent := inflateBlocks input limit (8 * input.size + 1) place #[]
    if extent.ending = .complete then
      match readChecksum extent.out input extent.place with
      | .error reason => { extent with ending := .stopped reason }
      | .ok ((), place) => { extent with place }
    else extent

end Datastream.Compression
