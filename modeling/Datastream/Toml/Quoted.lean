import Datastream.Text.Hex

/-!
# Quoted TOML texts

A text is written in the plainest quotes that take it as it is: double quotes, single quotes, three
double quotes, three single quotes. Only what none of them takes is escaped.
-/
namespace Datastream.Toml

/-- Characters that stand in no text without an escape. -/
def needsCode (c : Char) : Bool :=
  c ≠ '\t' && c ≠ '\n' && (c.toNat < 0x20 || c.toNat = 0x7f)

/-- How many of a character stand in a row at most. -/
def longestRun (x : Char) (cs : List Char) : Nat :=
  (cs.foldl (fun (now, most) c => if c = x then (now + 1, max most (now + 1)) else (0, most))
    ((0 : Nat), (0 : Nat))).2

/-- A character as an escape, where double quotes need one. -/
def escape? (lines : Bool) (c : Char) : Option String :=
  if c = '\x08' then some "\\b"
  else if c = '\t' then some "\\t"
  else if c = '\n' then (if lines then none else some "\\n")
  else if c = '\x0c' then some "\\f"
  else if c = '\r' then some "\\r"
  else if c = '\\' then some "\\\\"
  else if needsCode c then some ("\\u" ++ (Hex.padded 4 c.toNat).toUpper)
  else none

/-- The inside of double quotes; `quotes` more may stand in a row before one has to be escaped. -/
def escaped (lines : Bool) : (quotes : Nat) → List Char → String
  | _, [] => ""
  | quotes, c :: rest =>
    let allowed := if lines then 2 else 0
    if c = '"' then
      match quotes with
      | 0 => "\\\"" ++ escaped lines allowed rest
      | quotes + 1 => "\"" ++ escaped lines quotes rest
    else (escape? lines c).getD (String.singleton c) ++ escaped lines allowed rest

def quote (s : String) : String :=
  let cs := s.toList
  let newline := cs.contains '\n'
  let coded := cs.any needsCode
  let slash := cs.contains '\\'
  let doubles := longestRun '"' cs
  let singles := longestRun '\'' cs
  let start := if newline then "\n" else ""
  let basic := "\"" ++ escaped false 0 cs ++ "\""
  let basicLines := "\"\"\"" ++ start ++ escaped true 2 cs ++ "\"\"\""
  if !coded && !slash && doubles = 0 && !newline then basic
  else if !coded && singles = 0 && !newline then "'" ++ s ++ "'"
  else if !coded && !slash && doubles ≤ 2 then basicLines
  else if !coded && singles ≤ 2 then "'''" ++ start ++ s ++ "'''"
  else if newline then basicLines
  else basic

end Datastream.Toml
