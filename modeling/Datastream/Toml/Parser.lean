import Datastream.Text.Hex
import Datastream.Toml.Document
import Datastream.Toml.Number

/-!
# Reading TOML

A parser takes characters off the front of a text, or refuses it. A document is read line by line
into statements; what an invalid document has against it is not told.
-/
namespace Datastream.Toml

abbrev Parser := StateT (List Char) Option

namespace Parser

/-- How deep values may lie in arrays and inline tables. -/
def maxDepth : Nat := 79

/-- Characters that may stand in comments and quoted texts. -/
def isPlain (c : Char) : Bool := c = '\t' || (0x20 ≤ c.toNat && c.toNat ≠ 0x7f)

def isBlank (c : Char) : Bool := c = ' ' || c = '\t'

/-- Characters of keys without quotes. -/
def isBare (c : Char) : Bool := c.isAlphanum || c = '_' || c = '-'

def skipBlanks : Parser Unit := modify (·.dropWhile isBlank)

def char (c : Char) : Parser Unit := fun cs =>
  match cs with
  | d :: rest => if d = c then some ((), rest) else none
  | [] => none

/-- Skips blanks, line ends and comments. -/
def skipLines (comment : Bool) : List Char → Option (List Char)
  | [] => some []
  | '\n' :: rest => skipLines false rest
  | '\r' :: '\n' :: rest => skipLines false rest
  | c :: rest =>
    if comment then (if isPlain c then skipLines true rest else none)
    else if isBlank c then skipLines false rest
    else if c = '#' then skipLines true rest
    else some (c :: rest)

def skip : Parser Unit := fun cs => (skipLines false cs).map ((), ·)

/-- The end of a line, after blanks and a comment. -/
def lineEnd : Parser Unit := do
  skipBlanks
  let cs ← get
  let rest := if cs.head? = some '#' then cs.dropWhile isPlain else cs
  match rest with
  | [] => set ([] : List Char)
  | '\n' :: rest => set rest
  | '\r' :: '\n' :: rest => set rest
  | _ => failure

/-- The character of a number, which must not be half of a surrogate pair. -/
def scalar? (digits : List Char) : Option Char := do
  let n := ofDigits 16 (← digits.mapM (digitIn? 16))
  if h : n.isValidChar then some (Char.ofNatAux n h) else none

def escaped? : Char → Option Char
  | 'b' => some '\x08'
  | 't' => some '\t'
  | 'n' => some '\n'
  | 'f' => some '\x0c'
  | 'r' => some '\r'
  | '"' => some '"'
  | '\\' => some '\\'
  | _ => none

/-- A text in double quotes, after the first of them. -/
def basic : List Char → Option (List Char × List Char)
  | '"' :: rest => some ([], rest)
  | '\\' :: 'u' :: a :: b :: c :: d :: rest => do
    let x ← scalar? [a, b, c, d]
    let (text, rest) ← basic rest
    return (x :: text, rest)
  | '\\' :: 'U' :: a :: b :: c :: d :: e :: f :: g :: h :: rest => do
    let x ← scalar? [a, b, c, d, e, f, g, h]
    let (text, rest) ← basic rest
    return (x :: text, rest)
  | '\\' :: c :: rest => do
    let x ← escaped? c
    let (text, rest) ← basic rest
    return (x :: text, rest)
  | c :: rest => do
    if !isPlain c then none
    let (text, rest) ← basic rest
    return (c :: text, rest)
  | [] => none

/-- A text in single quotes, after the first of them. -/
def literal : List Char → Option (List Char × List Char)
  | '\'' :: rest => some ([], rest)
  | c :: rest => do
    if !isPlain c then none
    let (text, rest) ← literal rest
    return (c :: text, rest)
  | [] => none

/-- Whether only blanks stand before the end of the line. -/
def endsLine (cs : List Char) : Bool :=
  match cs.dropWhile isBlank with
  | '\n' :: _ => true
  | '\r' :: '\n' :: _ => true
  | _ => false

/-- A text in three double quotes, after the first three. Two more quotes may stand before the last
three; a backslash at the end of a line takes away the blanks and line ends that follow. -/
def basicLines (trim : Bool) : List Char → Option (List Char × List Char)
  | '"' :: '"' :: '"' :: '"' :: '"' :: rest => some (['"', '"'], rest)
  | '"' :: '"' :: '"' :: '"' :: rest => some (['"'], rest)
  | '"' :: '"' :: '"' :: rest => some ([], rest)
  | '\r' :: '\n' :: rest => do
    let (text, rest) ← basicLines trim rest
    return (if trim then text else '\n' :: text, rest)
  | '\\' :: 'u' :: a :: b :: c :: d :: rest => do
    let x ← scalar? [a, b, c, d]
    let (text, rest) ← basicLines false rest
    return (x :: text, rest)
  | '\\' :: 'U' :: a :: b :: c :: d :: e :: f :: g :: h :: rest => do
    let x ← scalar? [a, b, c, d, e, f, g, h]
    let (text, rest) ← basicLines false rest
    return (x :: text, rest)
  | '\\' :: c :: rest =>
    if endsLine (c :: rest) then basicLines true rest
    else do
      let x ← escaped? c
      let (text, rest) ← basicLines false rest
      return (x :: text, rest)
  | c :: rest =>
    if trim && (c = '\n' || isBlank c) then basicLines true rest
    else do
      if !isPlain c && c != '\n' then none
      let (text, rest) ← basicLines false rest
      return (c :: text, rest)
  | [] => none

/-- A text in three single quotes, after the first three. -/
def literalLines : List Char → Option (List Char × List Char)
  | '\'' :: '\'' :: '\'' :: '\'' :: '\'' :: rest => some (['\'', '\''], rest)
  | '\'' :: '\'' :: '\'' :: '\'' :: rest => some (['\''], rest)
  | '\'' :: '\'' :: '\'' :: rest => some ([], rest)
  | '\r' :: '\n' :: rest => do
    let (text, rest) ← literalLines rest
    return ('\n' :: text, rest)
  | c :: rest => do
    if !isPlain c && c != '\n' then none
    let (text, rest) ← literalLines rest
    return (c :: text, rest)
  | [] => none

/-- Drops the line end right after opening quotes. -/
def dropLineEnd : List Char → List Char
  | '\n' :: rest => rest
  | '\r' :: '\n' :: rest => rest
  | cs => cs

/-- A text with quotes of any kind. -/
def quoted : Parser String := fun cs =>
  let text (r : Option (List Char × List Char)) : Option (String × List Char) :=
    r.map fun (text, rest) => (String.ofList text, rest)
  match cs with
  | '"' :: '"' :: '"' :: rest => text (basicLines false (dropLineEnd rest))
  | '"' :: rest => text (basic rest)
  | '\'' :: '\'' :: '\'' :: rest => text (literalLines (dropLineEnd rest))
  | '\'' :: rest => text (literal rest)
  | _ => none

def keyPart : Parser String := fun cs =>
  let text (r : Option (List Char × List Char)) : Option (String × List Char) :=
    r.map fun (text, rest) => (String.ofList text, rest)
  match cs with
  | '"' :: rest => text (basic rest)
  | '\'' :: rest => text (literal rest)
  | cs =>
    let bare := cs.takeWhile isBare
    if bare.isEmpty then none else some (String.ofList bare, cs.dropWhile isBare)

/-- The parts of a key, with dots between them; at most `fuel` of them. -/
def keyParts : (fuel : Nat) → Parser (List String)
  | 0 => failure
  | fuel + 1 => do
    skipBlanks
    let part ← keyPart
    skipBlanks
    if (← get).head? = some '.' then
      char '.'
      return part :: (← keyParts fuel)
    else return [part]

def key : Parser (List String) := keyParts maxDepth

def isToken (c : Char) : Bool :=
  c.isAlphanum || c = '_' || c = '-' || c = '+' || c = '.' || c = ':'

def tokenItem? (cs : List Char) : Option Item :=
  if cs = "true".toList then some (.boolean true)
  else if cs = "false".toList then some (.boolean false)
  else if isDateTime cs then some .other
  else match integer? cs with
    | some n => some (.integer n)
    | none => if isFloat cs then some .other else none

/-- A value without quotes. A date may be set off from its time by a space. -/
def token : Parser Item := fun cs =>
  let word := cs.takeWhile isToken
  let rest := cs.dropWhile isToken
  let longer := word ++ ' ' :: rest.tail.takeWhile isToken
  if isDate word && rest.head? = some ' ' && isDateTime longer then
    some (.other, rest.tail.dropWhile isToken)
  else (tokenItem? word).map (·, rest)

/-- The rest of an array after its bracket, of at most `fuel` items. -/
def elements (item : Parser Item) : (fuel : Nat) → Parser (List Item)
  | 0 => failure
  | fuel + 1 => do
    skip
    if (← get).head? = some ']' then
      char ']'
      return []
    else
      let first ← item
      skip
      if (← get).head? = some ',' then
        char ','
        return first :: (← elements item fuel)
      else
        char ']'
        return [first]

/-- An assignment, its key without the blanks around it. -/
def assignment (item : Parser Item) : Parser (List String × Item) := do
  let path ← key
  char '='
  skipBlanks
  return (path, ← item)

/-- The rest of an inline table after its first assignment, of at most `fuel` more. -/
def assignments (item : Parser Item) : (fuel : Nat) → Parser (List (List String × Item))
  | 0 => failure
  | fuel + 1 => do
    skipBlanks
    if (← get).head? = some ',' then
      char ','
      let next ← assignment item
      return next :: (← assignments item fuel)
    else
      char '}'
      return []

/-- A value that may hold others so many levels deep. -/
def item : (depth : Nat) → Parser Item
  | 0 => do
    match (← get).head? with
    | some '"' | some '\'' => return .string (← quoted)
    | _ => token
  | depth + 1 => do
    let cs ← get
    match cs.head? with
    | some '"' | some '\'' => return .string (← quoted)
    | some '[' =>
      char '['
      return .array (← elements (item depth) cs.length)
    | some '\x7b' =>
      char '\x7b'
      skipBlanks
      if (← get).head? = some '}' then
        char '}'
        return .table .inlined []
      else
        let first ← assignment (item depth)
        let rest ← assignments (item depth) cs.length
        match inlineTable (first :: rest) with
        | some table => return table
        | none => failure
    | _ => token

def statement : Parser Statement := do
  match ← get with
  | '[' :: '[' :: rest =>
    set rest
    let path ← key
    char ']'
    char ']'
    return .element path
  | '[' :: rest =>
    set rest
    let path ← key
    char ']'
    return .header path
  | _ =>
    let (path, item) ← assignment (item maxDepth)
    return .assign path item

/-- The statements of a text, at most `fuel` of them. -/
def statements : (fuel : Nat) → Parser (List Statement)
  | 0 => failure
  | fuel + 1 => do
    skip
    if (← get).isEmpty then return []
    else
      let first ← statement
      lineEnd
      return first :: (← statements fuel)

end Parser

/-- The document that a text spells; a byte order mark in front is passed over. -/
def parse? (text : String) : Option Entries := do
  let cs := text.toList
  let cs := if cs.head? = some '\ufeff' then cs.tail else cs
  let (statements, _) ← (Parser.statements (cs.length + 1)).run cs
  build statements

end Datastream.Toml
