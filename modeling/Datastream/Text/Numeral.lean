/-!
# Decimal numerals

How numbers are given in settings: digits, after a plus sign if one likes. Zeros may stand in front.
-/
namespace Datastream.Numeral

def digit? (c : Char) : Option Nat :=
  if '0' ≤ c ∧ c ≤ '9' then some (c.toNat - 48) else none

def ofDigits? (cs : List Char) : Option Nat :=
  if cs.isEmpty then none
  else (cs.mapM digit?).map fun digits => digits.foldl (fun n d => n * 10 + d) 0

def parse? (bound : Nat) (s : String) : Option Nat :=
  let cs := match s.toList with
    | '+' :: rest => rest
    | cs => cs
  (ofDigits? cs).filter (· < bound)

end Datastream.Numeral
