/-!
# Prefix codes

A prefix code is a tree whose leaves are symbols; the bits of a symbol's code word lead to its leaf.
A code is given by the lengths of its words alone: shorter words come first, words of one length are
in the order of their symbols, and each word is the next free one.
-/
namespace Datastream.Compression

/-- A prefix code, `empty` where no word begins. -/
inductive PrefixCode
  | empty
  | symbol (n : Nat)
  | node (zero one : PrefixCode)
  deriving Inhabited, Repr

namespace PrefixCode

def insert (word : List Bool) (n : Nat) (code : PrefixCode) : PrefixCode :=
  match word with
  | [] => symbol n
  | bit :: word =>
    let (zero, one) := match code with
      | node zero one => (zero, one)
      | _ => (empty, empty)
    if bit then node zero (insert word n one) else node (insert word n zero) one

/-- The low `length` bits of a number, most significant first. -/
def bits : (length value : Nat) → List Bool
  | 0, _ => []
  | length + 1, value => (value / Nat.pow 2 length % 2 = 1) :: bits length value

def maxLength : Nat := 15

/-- The symbols whose words have a length. -/
def symbolsOf (lengths : List Nat) (length : Nat) : List Nat :=
  lengths.zipIdx.filterMap fun (l, n) => if l = length then some n else none

/-- Gives words of one length to symbols, from `next` on. -/
def assign (length : Nat) : (symbols : List Nat) → (next : Nat) → PrefixCode → Nat × PrefixCode
  | [], next, code => (next, code)
  | n :: symbols, next, code =>
    assign length symbols (next + 1) (insert (bits length next) n code)

/-- Gives words to all symbols, those of length `length` first. -/
def build (lengths : List Nat) : (left length next : Nat) → PrefixCode → PrefixCode
  | 0, _, _, code => code
  | left + 1, length, next, code =>
    let (next, code) := assign length (symbolsOf lengths length) (next * 2) code
    build lengths left (length + 1) next code

/-- How much of the space of all words is used, in words of sixteen bits. -/
def usedSpace (lengths : List Nat) : Nat :=
  lengths.foldr (fun l used => (if l = 0 then 0 else Nat.pow 2 (16 - l)) + used) 0

/-- The code of the given lengths, zero for symbols without a word. The words have to use up the
space, unless there is at most one and the code may be `partly` used. -/
def ofLengths? (partly : Bool) (lengths : List Nat) : Option PrefixCode :=
  let used := (lengths.filter (· ≠ 0)).length
  if usedSpace lengths = 0x10000 || (partly && used ≤ 1) then
    some (build lengths maxLength 1 0 empty)
  else none

end PrefixCode
end Datastream.Compression
