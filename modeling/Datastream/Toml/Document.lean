/-!
# TOML documents

A document is a table of values, some of them tables again. Its statements add to it one after the
other; a statement that would define something twice, or add to what is closed, makes the document
invalid. How a table came to be decides what may still be added to it.
-/
namespace Datastream.Toml

/-- How a table came to be. -/
inductive Origin
  /-- By a header of its own. -/
  | header
  /-- On the way to the table of a header. -/
  | implied
  /-- On the way to the last part of a dotted key. -/
  | dotted
  /-- Written as a value, all at once. -/
  | inlined
  deriving DecidableEq, Repr

/-- A value of a document. Floating-point numbers and dates are all alike here. -/
inductive Item
  | string (s : String)
  | integer (n : Int)
  | boolean (b : Bool)
  | other
  | array (items : List Item)
  | table (origin : Origin) (entries : List (String × Item))
  /-- Tables with one header in common, each of them beginning with it. -/
  | tables (list : List (List (String × Item)))
  deriving Repr

abbrev Entries := List (String × Item)

namespace Entries

def find? (entries : Entries) (key : String) : Option Item := entries.lookup key

/-- Puts an item under a key, in place of the one that was there. -/
def put (entries : Entries) (key : String) (item : Item) : Entries :=
  match entries with
  | [] => [(key, item)]
  | (k, i) :: rest => if k = key then (key, item) :: rest else (k, i) :: put rest key item

end Entries

/-- A step on the way to a table: the key, and whether it is part of a dotted key. -/
structure Step where
  key : String
  dotted : Bool
  deriving DecidableEq, Repr

/-- Changes the table at the end of a way, making the tables on the way that are missing. A dotted
key adds only to tables that no header has defined. -/
def alter (f : Origin → Entries → Option (Origin × Entries)) :
    List Step → Origin → Entries → Option (Origin × Entries)
  | [], origin, entries => f origin entries
  | step :: rest, origin, entries => do
    match entries.find? step.key with
    | none =>
      let (o, es) ← alter f rest (if step.dotted then .dotted else .implied) []
      return (origin, entries.put step.key (.table o es))
    | some (.table o es) =>
      if o = .inlined ∨ (step.dotted ∧ o = .header) then none
      else
        let (o, es) ← alter f rest o es
        return (origin, entries.put step.key (.table o es))
    | some (.tables list) =>
      let (_, es) ← alter f rest .header (← list.getLast?)
      return (origin, entries.put step.key (.tables (list.dropLast ++ [es])))
    | some _ => none

inductive Statement
  /-- Later assignments are to this table. -/
  | header (path : List String)
  /-- Later assignments are to one more table of this name. -/
  | element (path : List String)
  | assign (path : List String) (item : Item)
  deriving Repr

def headerWay (path : List String) : List Step := path.map (⟨·, false⟩)

/-- Assigns an item to a key that has none yet. -/
def assign (way : List Step) (path : List String) (item : Item) (entries : Entries) :
    Option Entries := do
  let key ← path.getLast?
  let above := path.dropLast
  let put (origin : Origin) (es : Entries) : Option (Origin × Entries) :=
    if (!above.isEmpty && origin != .dotted) || (es.find? key).isSome then none
    else some (origin, es.put key item)
  return (← alter put (way ++ above.map (⟨·, true⟩)) .header entries).2

def define (path : List String) (entries : Entries) : Option Entries := do
  let key ← path.getLast?
  let put (origin : Origin) (es : Entries) : Option (Origin × Entries) :=
    match es.find? key with
    | none => some (origin, es.put key (.table .header []))
    | some (.table .implied inner) => some (origin, es.put key (.table .header inner))
    | some _ => none
  return (← alter put (headerWay path.dropLast) .header entries).2

def extend (path : List String) (entries : Entries) : Option Entries := do
  let key ← path.getLast?
  let put (origin : Origin) (es : Entries) : Option (Origin × Entries) :=
    match es.find? key with
    | none => some (origin, es.put key (.tables [[]]))
    | some (.tables list) => some (origin, es.put key (.tables (list ++ [[]])))
    | some _ => none
  return (← alter put (headerWay path.dropLast) .header entries).2

/-- Carries out statements, the assignments among them in the table at the end of a way. -/
def run : List Statement → List Step → Entries → Option Entries
  | [], _, entries => some entries
  | .header path :: rest, _, entries => do run rest (headerWay path) (← define path entries)
  | .element path :: rest, _, entries => do run rest (headerWay path) (← extend path entries)
  | .assign path item :: rest, way, entries => do run rest way (← assign way path item entries)

def build (statements : List Statement) : Option Entries := run statements [] []

/-- The table that assignments within braces make up. -/
def inlineTable (assignments : List (List String × Item)) : Option Item := do
  let entries ← assignments.foldlM (fun entries a => assign [] a.1 a.2 entries) []
  return .table .inlined entries

end Datastream.Toml
