import Datastream.Table

/-!
# Repositories

Which object goes by which name, class by class. A repository does not keep objects alive: an entry
whose object has died counts as absent, and the next object of that name takes its place. What is
alive is told by the caller.

Models `add`, `find`, `remove`, `rename`, `prune`, `clear`, `len` and `is_empty`.
-/
namespace Datastream

/-- An object's place in the memory of the program. -/
abbrev Handle := Nat

structure Repository where
  classes : Table String (Table String Handle) := []
  deriving DecidableEq, Repr

namespace Repository

variable (live : Handle → Bool) (r : Repository)

/-- The entry for a name, alive or not. -/
def entry? (className objectName : String) : Option Handle :=
  (r.classes.find? className).bind (·.find? objectName)

def find? (className objectName : String) : Option Handle :=
  (r.entry? className objectName).filter live

/-- Gives an object a name that no live object has; says whether it did. -/
def add (className objectName : String) (handle : Handle) : Bool × Repository :=
  let names := (r.classes.find? className).getD []
  if (names.find? objectName).any live then (false, r)
  else (true, ⟨r.classes.put className (names.put objectName handle)⟩)

/-- Takes a name away, and the class if that was its last one; tells the live object that had it. -/
def remove (className objectName : String) : Option Handle × Repository :=
  match r.classes.find? className with
  | none => (none, r)
  | some names =>
    let left := names.erase objectName
    ((names.find? objectName).filter live,
      ⟨if left.isEmpty then r.classes.erase className else r.classes.put className left⟩)

/-- Moves a live object to another name, over what goes by it. A dead entry is dropped. -/
def rename (className oldName newName : String) : Option Handle × Repository :=
  match r.classes.find? className with
  | none => (none, r)
  | some names =>
    match names.find? oldName with
    | none => (none, r)
    | some handle =>
      let left := names.erase oldName
      if live handle then (some handle, ⟨r.classes.put className (left.put newName handle)⟩)
      else (none, ⟨r.classes.put className left⟩)

/-- Every entry, alive or not. -/
def entries : List (String × String × Handle) :=
  r.classes.flatMap fun names => names.2.map fun entry => (names.1, entry)

/-- How many live objects have a name. -/
def size : Nat := (r.entries.filter fun entry => live entry.2.2).length

/-- Whether no live object has a name. -/
def isEmpty : Bool := r.size live == 0

/-- Drops the entries that are dead and the classes that are empty then; says how many entries. -/
def prune : Nat × Repository :=
  let kept := r.classes.map fun names => (names.1, names.2.filter fun entry => live entry.2)
  ((r.entries.filter fun entry => !live entry.2.2).length,
    ⟨kept.filter fun names => !names.2.isEmpty⟩)

def clear : Repository := {}

def describe : String :=
  "ObjectRepository \x7b classes: " ++ toString r.classes.length ++ ", objects: " ++
    toString (r.size live) ++ " \x7d"

end Repository
end Datastream
