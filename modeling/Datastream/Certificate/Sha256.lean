import Datastream.Bytes

/-!
# Certificate hashes

The hash by which a certificate is recognized: SHA-256. The input is padded to whole blocks of
sixteen words; every block is spread over sixty-four words, which are mixed into eight chaining
words one after another.

This is the hash that `calculate_cert_hash` takes of a certificate.
-/
namespace Datastream.Sha256

/-- The chaining words. -/
structure Chain where
  a : UInt32
  b : UInt32
  c : UInt32
  d : UInt32
  e : UInt32
  f : UInt32
  g : UInt32
  h : UInt32
  deriving DecidableEq, Repr

/-- Fractions of the square roots of the first primes. -/
def start : Chain :=
  ⟨0x6a09e667, 0xbb67ae85, 0x3c6ef372, 0xa54ff53a,
   0x510e527f, 0x9b05688c, 0x1f83d9ab, 0x5be0cd19⟩

/-- Fractions of the cube roots of the first primes. -/
def constants : List UInt32 :=
  [0x428a2f98, 0x71374491, 0xb5c0fbcf, 0xe9b5dba5, 0x3956c25b, 0x59f111f1, 0x923f82a4, 0xab1c5ed5,
   0xd807aa98, 0x12835b01, 0x243185be, 0x550c7dc3, 0x72be5d74, 0x80deb1fe, 0x9bdc06a7, 0xc19bf174,
   0xe49b69c1, 0xefbe4786, 0x0fc19dc6, 0x240ca1cc, 0x2de92c6f, 0x4a7484aa, 0x5cb0a9dc, 0x76f988da,
   0x983e5152, 0xa831c66d, 0xb00327c8, 0xbf597fc7, 0xc6e00bf3, 0xd5a79147, 0x06ca6351, 0x14292967,
   0x27b70a85, 0x2e1b2138, 0x4d2c6dfc, 0x53380d13, 0x650a7354, 0x766a0abb, 0x81c2c92e, 0x92722c85,
   0xa2bfe8a1, 0xa81a664b, 0xc24b8b70, 0xc76c51a3, 0xd192e819, 0xd6990624, 0xf40e3585, 0x106aa070,
   0x19a4c116, 0x1e376c08, 0x2748774c, 0x34b0bcb5, 0x391c0cb3, 0x4ed8aa4a, 0x5b9cca4f, 0x682e6ff3,
   0x748f82ee, 0x78a5636f, 0x84c87814, 0x8cc70208, 0x90befffa, 0xa4506ceb, 0xbef9a3f7, 0xc67178f2]

def rotate (x n : UInt32) : UInt32 := x >>> n ||| x <<< (32 - n)

/-- The input with a mark after it, zeros up to the end of a block, and its length in bits. -/
def pad (b : Bytes) : Bytes :=
  b ++ 0x80 :: List.replicate ((119 - b.length % 64) % 64) 0 ++ Bytes.ofNat 8 (8 * b.length)

def words : Bytes → List UInt32
  | a :: b :: c :: d :: rest => UInt32.ofNat (Bytes.toNat [a, b, c, d]) :: words rest
  | _ => []

/-- Puts words in front of the ones that came before, latest first. -/
def spread : (count : Nat) → (latest : List UInt32) → List UInt32
  | 0, latest => latest
  | count + 1, latest =>
    let word (i : Nat) := latest.getD i 0
    let x := word 1
    let y := word 14
    let mixed := word 6 + word 15 + (rotate x 17 ^^^ rotate x 19 ^^^ x >>> 10) +
      (rotate y 7 ^^^ rotate y 18 ^^^ y >>> 3)
    spread count (mixed :: latest)

def mix (s : Chain) (input : UInt32 × UInt32) : Chain :=
  let first := s.h + (rotate s.e 6 ^^^ rotate s.e 11 ^^^ rotate s.e 25) +
    ((s.e &&& s.f) ^^^ (~~~s.e &&& s.g)) + input.1 + input.2
  let second := (rotate s.a 2 ^^^ rotate s.a 13 ^^^ rotate s.a 22) +
    ((s.a &&& s.b) ^^^ (s.a &&& s.c) ^^^ (s.b &&& s.c))
  ⟨first + second, s.a, s.b, s.c, s.d + first, s.e, s.f, s.g⟩

def absorb (s : Chain) (block : Bytes) : Chain :=
  let t := (constants.zip (spread 48 (words block).reverse).reverse).foldl mix s
  ⟨s.a + t.a, s.b + t.b, s.c + t.c, s.d + t.d, s.e + t.e, s.f + t.f, s.g + t.g, s.h + t.h⟩

def absorbAll : (blocks : Nat) → Chain → Bytes → Chain
  | 0, s, _ => s
  | blocks + 1, s, b => absorbAll blocks (absorb s (b.take 64)) (b.drop 64)

/-- The hash of a byte string, thirty-two bytes long. -/
def hash (b : Bytes) : Bytes :=
  let padded := pad b
  let s := absorbAll (padded.length / 64) start padded
  [s.a, s.b, s.c, s.d, s.e, s.f, s.g, s.h].flatMap Bytes.u32

end Datastream.Sha256
