import Datastream.Text.Hex
import Datastream.Text.Printable

/-!
# Quoted text

Text between double quotes, as it stands in descriptions: quotes, backslashes and control
characters are escaped, and so is every character that would not show, or would merge with the one
before it.
-/
namespace Datastream.Quoted

def numbered (c : Char) : String :=
  "\\u\x7b" ++ String.ofList (Nat.toDigits 16 c.toNat) ++ "\x7d"

def escape (c : Char) : String :=
  if c = '"' then "\\\""
  else if c = '\\' then "\\\\"
  else if c = '\n' then "\\n"
  else if c = '\r' then "\\r"
  else if c = '\t' then "\\t"
  else if c.toNat = 0 then "\\0"
  else if Printable.isHidden c then numbered c
  else String.singleton c

def quote (s : String) : String := "\"" ++ String.join (s.toList.map escape) ++ "\""

end Datastream.Quoted
