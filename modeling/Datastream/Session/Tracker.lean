/-!
# Trackers

Counts the objects whose initial state was asked for. A tracker is finished from the moment that the
last of them has its state, until another one is asked for.

Models `requested` and `received`.
-/
namespace Datastream

/-- The objects, by class and name, whose state is awaited. -/
structure Tracker where
  pending : List (String × String) := []
  finished : Bool := false
  deriving DecidableEq, Repr

namespace Tracker

/-- The state of an object was asked for. -/
def requested (t : Tracker) (className objectName : String) : Tracker where
  pending := t.pending.insert (className, objectName)
  finished := false

/-- The state of an object came, or is not awaited any more; says whether it was the last one. -/
def received (t : Tracker) (className objectName : String) : Bool × Tracker :=
  let left := t.pending.erase (className, objectName)
  if (className, objectName) ∈ t.pending ∧ left.isEmpty then (true, ⟨left, true⟩)
  else (false, { t with pending := left })

end Tracker
end Datastream
