/-!
# Numbers and dates in TOML

Everything that stands without quotes: integers, floating-point numbers, dates and times, truth
values. Of these only integers and truth values are told apart.
-/
namespace Datastream.Toml

def isDigit (c : Char) : Bool := '0' ≤ c && c ≤ '9'

/-- The value of a digit in some base, if it is one. -/
def digitIn? (base : Nat) (c : Char) : Option Nat :=
  let n :=
    if isDigit c then c.toNat - 48
    else if 'a' ≤ c && c ≤ 'f' then c.toNat - 87
    else if 'A' ≤ c && c ≤ 'F' then c.toNat - 55
    else base
  if n < base then some n else none

/-- Digits, with single underscores allowed between them. -/
def digits? (base : Nat) : List Char → Option (List Nat)
  | [] => none
  | [c] => do return [← digitIn? base c]
  | c :: '_' :: rest => do return (← digitIn? base c) :: (← digits? base rest)
  | c :: rest => do return (← digitIn? base c) :: (← digits? base rest)

def ofDigits (base : Nat) (digits : List Nat) : Nat := digits.foldl (fun n d => n * base + d) 0

/-- Decimal digits without a zero in front. -/
def unsigned? (cs : List Char) : Option Nat := do
  let digits ← digits? 10 cs
  if digits.length > 1 ∧ digits.head? = some 0 then none else some (ofDigits 10 digits)

/-- Takes a sign off the front; says whether it was a minus. -/
def takeSign : List Char → Bool × List Char
  | '+' :: rest => (false, rest)
  | '-' :: rest => (true, rest)
  | cs => (false, cs)

/-- An integer that fits 64 bits. -/
def integer? (cs : List Char) : Option Int := do
  let n : Int ← match cs with
    | '0' :: 'x' :: rest => (fun ds => (ofDigits 16 ds : Int)) <$> digits? 16 rest
    | '0' :: 'o' :: rest => (fun ds => (ofDigits 8 ds : Int)) <$> digits? 8 rest
    | '0' :: 'b' :: rest => (fun ds => (ofDigits 2 ds : Int)) <$> digits? 2 rest
    | cs =>
      let (minus, cs) := takeSign cs
      (fun n : Nat => if minus then -(n : Int) else n) <$> unsigned? cs
  if -9223372036854775808 ≤ n ∧ n ≤ 9223372036854775807 then some n else none

/-- Whether an exponent, if there is one, is well formed. -/
def exponentOk : List Char → Bool
  | [] => true
  | c :: rest => (c = 'e' || c = 'E') && (digits? 10 (takeSign rest).2).isSome

def isFloat (cs : List Char) : Bool :=
  let cs := (takeSign cs).2
  if cs = "inf".toList ∨ cs = "nan".toList then true
  else
    let isPart (c : Char) : Bool := isDigit c || c = '_'
    (unsigned? (cs.takeWhile isPart)).isSome &&
      match cs.dropWhile isPart with
      | '.' :: rest =>
        (digits? 10 (rest.takeWhile isPart)).isSome && exponentOk (rest.dropWhile isPart)
      | [] => false
      | rest => exponentOk rest

def pair? (a b : Char) : Option Nat := do return (← digitIn? 10 a) * 10 + (← digitIn? 10 b)

/-- A day that the calendar has. -/
def isDate : List Char → Bool
  | [a, b, c, d, '-', m, m', '-', e, e'] =>
    match pair? a b, pair? c d, pair? m m', pair? e e' with
    | some century, some year, some month, some day =>
      let year := century * 100 + year
      let leap := year % 4 = 0 ∧ (year % 100 ≠ 0 ∨ year % 400 = 0)
      let last :=
        if month = 2 then (if leap then 29 else 28)
        else if month = 4 ∨ month = 6 ∨ month = 9 ∨ month = 11 then 30 else 31
      1 ≤ month && month ≤ 12 && 1 ≤ day && day ≤ last
    | _, _, _, _ => false
  | _ => false

def fractionOk : List Char → Bool
  | [] => true
  | '.' :: rest => !rest.isEmpty && rest.all isDigit
  | _ => false

/-- A time of day; a minute may have sixty-one seconds. -/
def isTime : List Char → Bool
  | h :: h' :: ':' :: m :: m' :: ':' :: s :: s' :: rest =>
    (pair? h h').any (· < 24) && (pair? m m').any (· < 60) && (pair? s s').any (· ≤ 60) &&
      fractionOk rest
  | _ => false

def isOffset : List Char → Bool
  | ['Z'] | ['z'] => true
  | [sign, h, h', ':', m, m'] =>
    (sign = '+' || sign = '-') && (pair? h h').any (· < 24) && (pair? m m').any (· < 60)
  | _ => false

/-- A date, a time, or both with or without an offset. -/
def isDateTime (cs : List Char) : Bool :=
  if isTime cs then true
  else isDate (cs.take 10) &&
    match cs.drop 10 with
    | [] => true
    | mark :: rest =>
      let isClock (c : Char) : Bool := isDigit c || c = ':' || c = '.'
      let offset := rest.dropWhile isClock
      (mark = 'T' || mark = 't' || mark = ' ') && isTime (rest.takeWhile isClock) &&
        (offset.isEmpty || isOffset offset)

end Datastream.Toml
