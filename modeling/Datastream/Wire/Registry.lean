import Datastream.Error
import Datastream.Value.Tag

/-!
# Registries

The types that a codec knows. The marker `userType` only announces a named type, so it is never
known by itself.

Models `empty`, `register`, `standard` and `lookup`.
-/
namespace Datastream

/-- A selection of the types that there is an encoding for. -/
structure Registry where
  tags : List Tag
  deriving DecidableEq, Repr

namespace Registry

def empty : Registry := ⟨[]⟩

/-- Adds a type; the bare marker has no encoding and changes nothing. -/
def register (r : Registry) (tag : Tag) : Registry :=
  if tag = .plain .userType then r else ⟨tag :: r.tags⟩

def ofTags (tags : List Tag) : Registry := tags.foldl register empty

/-- Every type that a core may send. -/
def standard : Registry := ofTags Tag.all

def knows (r : Registry) (tag : Tag) : Bool := r.tags.contains tag

/-- How the entry for a type describes itself. -/
def describe (tag : Tag) : String := "Serializer \x7b tag: " ++ tag.describe ++ " \x7d"

/-- The error for a type that is not registered. -/
def unknown : Tag → Error
  | .plain type => .unknownType type.id
  | .named type => .unknownNamedType type.name

/-- The entry for a type: the type itself, if it is registered. -/
def lookup (r : Registry) (tag : Tag) : Except Error Tag :=
  if r.knows tag then .ok tag else .error (unknown tag)

end Registry
end Datastream
