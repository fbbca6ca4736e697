import Datastream.Sync.Object
import Datastream.Sync.Repository

/-!
# Stores

The objects that a program has made. The program knows the objects that it holds by labels of its
own; an object that it has dropped lives on only while somebody else keeps it.
-/
namespace Datastream

structure Stored where
  label : String
  object : Object
  /-- Whether the program holds it. -/
  held : Bool := true
  /-- Whether it is kept by more than the program. -/
  kept : Bool := false
  deriving DecidableEq, Repr

/-- The objects that were made, oldest first; a handle counts from the oldest. -/
structure Store where
  objects : List Stored := []
  deriving DecidableEq, Repr

namespace Store

def handle? (s : Store) (label : String) : Option Handle :=
  s.objects.findIdx? fun o => o.held && o.label == label

def object? (s : Store) (handle : Handle) : Option Object := s.objects[handle]?.map Stored.object

/-- Whether the program or somebody else keeps the object. -/
def isLive (s : Store) (handle : Handle) : Bool :=
  match s.objects[handle]? with
  | some o => o.held || o.kept
  | none => false

def modify (s : Store) (handle : Handle) (f : Object → Object) : Store :=
  ⟨s.objects.modify handle fun o => { o with object := f o.object }⟩

def set (s : Store) (handle : Handle) (object : Object) : Store := s.modify handle fun _ => object

def init (s : Store) (handle : Handle) (state : Fields) : Except Error Unit × Store :=
  match s.object? handle with
  | none => (.ok (), s)
  | some o =>
    if o.poisoned then (.error .poisoned, s)
    else match o.init state with
      | .ok o => (.ok (), s.set handle o)
      | .error error => (.error error, s)

/-- The program drops an object; says whether it held one. -/
def drop (s : Store) (label : String) : Bool × Store :=
  match s.handle? label with
  | none => (false, s)
  | some handle => (true, ⟨s.objects.modify handle fun o => { o with held := false }⟩)

/-- Puts an object in under a label, for which the program drops what it held. -/
def add (s : Store) (label : String) (object : Object) (kept : Bool) : Handle × Store :=
  let s := (s.drop label).2
  (s.objects.length, ⟨s.objects ++ [⟨label, object, true, kept⟩]⟩)

/-- The label of an object, unless the program has dropped it. -/
def label? (s : Store) (handle : Handle) : Option String :=
  s.objects[handle]?.bind fun o => if o.held then some o.label else none

end Store
end Datastream
